import Mailroom.Proofs.Engine.Lockstep
import Mailroom.Proofs.Engine.Passages
import Mailroom.Proofs.Engine.Retirement
/-! # Programs that break off

A callback that breaks off is one that ends, but for one event in the journal; and as nobody reads
the journal, nobody can tell later which of the two it was. An init that breaks off is one that
fails with the text.
-/

namespace Mailroom

variable {κ : Type}

/-- A program with another end, the same one whichever way it got there. -/
def Program.endingIn (program last : Program κ) : Program κ := program.mapEnd fun _ => last

private theorem Program.mapEnd_of_isEnd {program : Program κ} (ends : program.isEnd = true)
    (change : Program κ → Program κ) : program.mapEnd change = change program := by
  cases program <;> first | rfl | exact nomatch ends

/-! ### Journals that differ in one event -/

/-- The same roster with a journal that began earlier. -/
def Roster.onto (roster : Roster κ) (earlier : List Event) : Roster κ :=
  { roster with past := roster.past ++ earlier }

/-- The same engine with a journal that began earlier. -/
def Engine.onto (engine : Engine κ) (earlier : List Event) : Engine κ :=
  { engine with roster := engine.roster.onto earlier }

/-- Two engines in the same state, of which the first noted one event more. -/
def Engine.Beside (event : Event) (engine twin : Engine κ) : Prop :=
  ∃ (common : Engine κ) (earlier : List Event),
    engine = common.onto (event :: earlier) ∧ twin = common.onto earlier

/-- Work in progress that is the same but for an event in the journal. -/
structure Machine.Beside (event : Event) (machine twin : Machine κ) : Prop where
  tasks : twin.tasks = machine.tasks
  engine : machine.engine.Beside event twin.engine

/-- Queues have the same room, and the journal of the one began with an event more. -/
def Likeness.noted (event : Event) (earlier : List Event) : Likeness :=
  { rooms := False, began := (event :: earlier, earlier) }

namespace Engine

variable {engine twin : Engine κ} {event : Event}

private theorem Beside.exists_alike (beside : engine.Beside event twin) :
    ∃ earlier, engine.Alike (.noted event earlier) twin := by
  obtain ⟨common, earlier, rfl, rfl⟩ := beside
  have exchanges : (Likeness.noted event earlier).Exchanges common.roster.exchange
    common.roster.exchange := ⟨.refl _, .inr rfl⟩
  have roster : (common.roster.onto (event :: earlier)).Alike (.noted event earlier)
    (common.roster.onto earlier) := .intro exchanges ⟨common.roster.past, rfl, rfl⟩
  exact ⟨earlier, .intro (.inr ⟨rfl, rfl⟩) roster⟩

private theorem Alike.beside {earlier : List Event}
    (alike : engine.Alike (.noted event earlier) twin) :
    engine.Beside event twin := by
  obtain ⟨rooms, ⟨⟨_, exchanges⟩, since, past, rfl⟩⟩ := alike
  obtain ⟨rfl, rfl⟩ := rooms.resolve_left id
  obtain rfl := exchanges.resolve_left id
  have past : engine.roster.past = since ++ event :: earlier := past
  refine ⟨{ engine with roster := { engine.roster with past := since } }, earlier, ?_, rfl⟩
  rw [onto, Roster.onto, ← past]

/-- Later they still differ in that event only, and the host is told the same. -/
theorem Beside.performAll? (beside : engine.Beside event twin) (fuel : Nat)
    (requests : List Request) :
    Option.Rel (Agree (Beside event)) (engine.performAll? fuel requests)
      (twin.performAll? fuel requests) := by
  obtain ⟨earlier, alike⟩ := beside.exists_alike
  exact rel_imp (alike.performAll? fuel requests) fun _ _ agree =>
    ⟨agree.answer, agree.alike.beside⟩

end Engine

namespace Machine

variable {engine after : Engine κ} {actor count : Nat} {purpose : Purpose}
  {actions last : Program κ}

private theorem Beside.settle? {machine twin : Machine κ} {event : Event}
    (beside : machine.Beside event twin) (fuel : Nat) :
    Option.Rel (Beside event) (settle? fuel machine) (settle? fuel twin) := by
  obtain ⟨earlier, alike⟩ := beside.engine.exists_alike
  have same : machine.Alike (.noted event earlier) twin := ⟨alike, beside.tasks⟩
  exact rel_imp (same.settle? fuel) fun _ _ ended => ⟨ended.tasks, ended.engine.beside⟩

/-- Before its end a program does not depend on how it ends. -/
theorem passes_endingIn (engine : Engine κ) (actor : Nat) (purpose : Purpose)
    (actions : Program κ) :
    (∃ count after, ∀ last rest, Passes count
      { engine, tasks := .run actor purpose (actions.endingIn last) :: rest }
      { engine := after, tasks := .run actor purpose last :: rest }) ∨
    ∀ last rest, Hangs { engine, tasks := .run actor purpose (actions.endingIn last) :: rest } := by
  refine (runsOrHangs actor purpose engine actions).imp ?_ fun hangs last rest => hangs _ rest
  rintro ⟨count, after, ended, ends, runs⟩
  refine ⟨count, after, fun last rest => ?_⟩
  have passes := runs (fun _ => last) rest
  rwa [Program.mapEnd_of_isEnd ends] at passes

private theorem rel_of_passes {alike : Machine κ → Machine κ → Prop}
    {machine twin middle middle' : Machine κ}
    (passes : Passes count machine middle) (passes' : Passes count twin middle')
    (rel : ∀ fuel, Option.Rel alike (Machine.settle? fuel middle) (Machine.settle? fuel middle'))
    (fuel : Nat) : Option.Rel alike (Machine.settle? fuel machine) (Machine.settle? fuel twin) := by
  rw [passes.settle?_eq, passes'.settle?_eq]
  split
  · exact rel _
  · exact .none

/-- A callback that breaks off leaves what one that ends does, and an event. -/
theorem beside_step (engine : Engine κ) (rest : List (Task κ)) (actor : Nat) (session : Int32)
    (text : Option String) (outcome : Except InitError Unit) :
    Beside (.panicked (engine.roster.handleOf actor) session (panicText text))
      (step { engine, tasks := .run actor (.callback session) (.panic text) :: rest })
      (step { engine, tasks := .run actor (.callback session) (.finish outcome) :: rest }) where
  tasks := rfl
  engine := ⟨{ engine with
    roster := { engine.roster with past := [] }
    completed := engine.completed + 1 }, engine.roster.past, rfl, rfl⟩

/-- An init that breaks off is one that fails with the text. -/
theorem settle?_init (fuel : Nat) (engine : Engine κ) (rest : List (Task κ)) (actor : Nat)
    (actions : Program κ) (text : Option String) :
    Machine.settle? fuel
      { engine, tasks := .run actor .init (actions.endingIn (.panic text)) :: rest } =
    Machine.settle? fuel { engine, tasks := .run actor .init (actions.endingIn
      (.finish (.error (.failed ("init panicked: " ++ panicText text))))) :: rest } := by
  obtain ⟨count, after, passes⟩ | hangs := passes_endingIn engine actor .init actions
  · have first := (passes (.panic text) rest).trans (.single rfl)
    have second := (passes (.finish (.error (.failed ("init panicked: " ++ panicText text))))
      rest).trans (.single rfl)
    rw [first.settle?_eq, second.settle?_eq]
    rfl
  · rw [(hangs _ rest).settle?, (hangs _ rest).settle?]

end Machine

namespace Reachable

variable {config : Config} {modules : List (String × Module κ)} {machine after : Machine κ}

/-- An actor keeps its handle while work is done. -/
theorem handleOf_of_passes (reached : Reachable config modules machine) {count : Nat}
    (passes : machine.Passes count after) {actor : Nat} {handle : Handle}
    (known : machine.engine.roster.handle? actor = some handle) :
    after.engine.roster.handleOf actor = handle := by
  have later : Later (fun _ => True) machine _ := Later.steps count machine
  rw [passes.iterate_eq] at later
  have moves := Course.moves (later.course reached.consistent) reached.consistent
  exact congrArg (·.getD default) (moves.handle?_eq_some known)

variable {engine : Engine κ} {rest : List (Task κ)} {actor : Nat} {session : Int32}
  {actions program : Program κ} {text : Option String}

/-- A callback that breaks off comes to the same end as one that does the same and then ends. -/
theorem settle?_callback
    (reached : Reachable config modules
      { engine
        tasks := .run actor (.callback session) (actions.endingIn (.panic text)) :: rest })
    {handle : Handle} (known : engine.roster.handle? actor = some handle)
    (outcome : Except InitError Unit) (fuel : Nat) :
    Option.Rel (Machine.Beside (.panicked handle session (panicText text)))
      (Machine.settle? fuel
        { engine
          tasks := .run actor (.callback session) (actions.endingIn (.panic text)) :: rest })
      (Machine.settle? fuel
        { engine
          tasks := .run actor (.callback session) (actions.endingIn (.finish outcome)) ::
            rest }) := by
  obtain ⟨count, after, passes⟩ | hangs :=
    Machine.passes_endingIn engine actor (.callback session) actions
  · have own : after.roster.handleOf actor = handle :=
      reached.handleOf_of_passes (passes (.panic text) rest) known
    have ends := Machine.beside_step after rest actor session text outcome
    rw [own] at ends
    exact Machine.rel_of_passes ((passes (.panic text) rest).trans (.single rfl))
      ((passes (.finish outcome) rest).trans (.single rfl)) ends.settle? fuel
  · rw [(hangs _ rest).settle?, (hangs _ rest).settle?]
    exact .none

end Reachable

/-- If the message in front of a mailbox in service is passed to a callback that does something and
then breaks off, the work in progress comes to the same end as with a callback that does the same
and then ends, or goes on forever just as well; all that differs is one event in the journal.
Nothing that the host asks for tells such engines apart. An init that does something and then breaks
off comes to the same end as one that does the same and then fails with the text. -/
theorem panics_are_contained (actions : Program κ) (text : Option String) :
    (∀ {config : Config} {modules : List (String × Module κ)} {engine taken : Engine κ}
        {rest : List (Task κ)} {box actor left invoked : Nat} {found : Actor κ} {key : κ}
        {message : Message},
      Reachable config modules
        { engine, tasks := .service box actor (left + 1) invoked :: rest } →
      engine.roster.actor? actor = some found → found.callback = some key →
      engine.take box = (some message, taken) →
      found.behaviour.receive key found.handle message = actions.endingIn (.panic text) →
      Machine.step { engine, tasks := .service box actor (left + 1) invoked :: rest } =
        Machine.serve taken rest found box actor left invoked message ∧
      ∀ (other : Instance κ) (outcome : Except InitError Unit),
        other.receive key found.handle message = actions.endingIn (.finish outcome) →
        ∀ fuel, Option.Rel
          (Machine.Beside (.panicked found.handle message.session (panicText text)))
          (Machine.settle? fuel (Machine.serve taken rest found box actor left invoked message))
          (Machine.settle? fuel (Machine.serve taken rest { found with behaviour := other }
            box actor left invoked message))) ∧
    (∀ (event : Event) (first second : Engine κ), first.Beside event second →
      ∀ fuel requests, Option.Rel (Agree (Engine.Beside event))
        (first.performAll? fuel requests) (second.performAll? fuel requests)) ∧
    ∀ fuel (engine : Engine κ) (rest : List (Task κ)) (actor : Nat),
      Machine.settle? fuel
        { engine, tasks := .run actor .init (actions.endingIn (.panic text)) :: rest } =
      Machine.settle? fuel { engine, tasks := .run actor .init (actions.endingIn
        (.finish (.error (.failed ("init panicked: " ++ panicText text))))) :: rest } := by
  refine ⟨?_, fun event first second beside => beside.performAll?,
    fun fuel engine rest actor => Machine.settle?_init fuel engine rest actor actions text⟩
  intro config modules engine taken rest box actor left invoked found key message reached works
    called took breaks
  have served : Machine.step { engine, tasks := .service box actor (left + 1) invoked :: rest } =
      Machine.serve taken rest found box actor left invoked message := by
    simp only [Machine.step, works, took]
  refine ⟨served, fun other outcome returns fuel => ?_⟩
  have begun := reached.stepped
  rw [served] at begun
  simp only [Machine.serve, called, breaks, returns] at begun ⊢
  refine begun.settle?_callback ?_ outcome fuel
  obtain ⟨_, rfl⟩ := Prod.mk.inj took
  exact congrArg (Option.map (·.handle)) works

/-- An actor launches another one, of which nobody hears, and exits. -/
def departing : Program Unit :=
  .command (.launch "fragile" "") fun _ => .command .exit fun _ => .finish (.ok ())

/-- A module whose actors break off when they have done so. -/
def fragile : Module Unit where
  create := .ok {
    init := fun _ _ => .setCallback () fun _ => .finish (.ok ())
    receive := fun _ _ _ => departing.endingIn (.panic (some "oops")) }

/-- An instance that does the same and ends. -/
def sturdy : Instance Unit where
  init := fun _ _ => .finish (.ok ())
  receive := fun _ _ _ => departing.endingIn (.finish (.ok ()))

theorem panics_are_contained_in_fragile :
    ∃ machine twin : Machine Unit,
      Reachable Config.standard [("fragile", fragile)] machine ∧
      machine.step.tasks.head? =
        some (.run 0 (.callback 5) (departing.endingIn (.panic (some "oops")))) ∧
      twin.tasks.head? = some (.run 0 (.callback 5) (departing.endingIn (.finish (.ok ())))) ∧
      Option.Rel (Machine.Beside (.panicked ⟨1⟩ 5 "oops"))
        (Machine.settle? 20 machine.step) (Machine.settle? 20 twin) ∧
      (Machine.settle? 20 twin).isSome = true := by
  have created : Engine.create Config.standard [("fragile", fragile)] = .ok _ := rfl
  have rested := (Reachable.created created).performAll (Option.some_get
    (by decide +kernel : (Engine.performAll? 9
      [.create "fragile" "", .send none (.handle ⟨1⟩) 5 []] _).isSome)).symm
  have reached := rested.servicing rfl rfl
  obtain ⟨begun, alike⟩ := (panics_are_contained departing (some "oops")).1 reached rfl rfl rfl rfl
  exact ⟨_, _, reached, congrArg (·.tasks.head?) begun, rfl, begun ▸ alike sturdy (.ok ()) rfl 20,
    by decide +kernel⟩

end Mailroom
