import Mailroom.Proofs.Engine.Steps
import Mathlib.Logic.Function.Iterate
/-! # Legs of a run

One request of the host may dispatch many mailboxes and put actors to work for many steps. Here
every run is seen leg by leg: a request that puts no actor to work, what one dispatch takes from the
run queue, a step of the work in progress. Each leg tells the sessions that are drawn in it and what
it takes. A send that asks for a new session draws it from a counter: that of the actor that sends,
or of the actor that is live with the source's handle, or the engine's own.
-/

namespace Mailroom

variable {κ : Type}

/-! ### Later states -/

/-- What can come next in a run; the host performs only the requests that it may. -/
inductive Next (may : Request → Prop) : Machine κ → Machine κ → Prop where
  | performed {engine after : Engine κ} {fuel : Nat} {request : Request} {answer : Answer}
    (allowed : may request) (performed : engine.perform? fuel request = some (answer, after)) :
    Next may { engine, tasks := [] } { engine := after, tasks := [] }
  | launching {engine : Engine κ} (module args : String) :
    Next may { engine, tasks := [] } { engine, tasks := [.launch module args] }
  /-- A launch that the host commands in the name of an actor. -/
  | commanding {engine : Engine κ} (caller : Handle) (module args : String) :
    Next may { engine, tasks := [] }
      { engine := engine.note (.commanded caller (Command.launch module args).keyword)
        tasks := [.launch module args] }
  | servicing {engine : Engine κ} {box actor : Nat} {exchange : Exchange}
    (taken : engine.roster.exchange.next? = some (box, exchange))
    (live : engine.roster.find? (exchange.handleOf box) = some actor) :
    Next may { engine, tasks := [] } (engine.servicing box actor exchange)
  | stepped (machine : Machine κ) : Next may machine machine.step
  /-- The host is told what came of a launch. -/
  | launched {engine : Engine κ} (result : Except LaunchError Handle) :
    Next may { engine, tasks := [.launched result] } { engine, tasks := [] }
  /-- The host is told that a mailbox has been serviced. -/
  | serviced {engine : Engine κ} (invoked : Nat) :
    Next may { engine, tasks := [.serviced invoked] } { engine, tasks := [] }

/-- What can come of a state in a run. -/
abbrev Later (may : Request → Prop) : Machine κ → Machine κ → Prop :=
  Relation.ReflTransGen (Next may)

section

variable {may : Request → Prop}

theorem Later.steps (count : Nat) (machine : Machine κ) :
    Later may machine (Machine.step^[count] machine) := by
  induction count generalizing machine with
  | zero => exact .refl
  | succ count ih => exact .head (.stepped machine) (ih machine.step)

/-- A history of requests that the host may perform leads to a later state. -/
theorem Later.performAll {machine : Machine κ} {engine : Engine κ}
    (later : Later may machine { engine, tasks := [] }) {fuel : Nat} {requests : List Request}
    (allowed : ∀ request ∈ requests, may request) {outcome : List Answer × Engine κ}
    (performed : engine.performAll? fuel requests = some outcome) :
    Later may machine { engine := outcome.2, tasks := [] } := by
  induction requests generalizing engine outcome with
  | nil =>
    obtain rfl := Option.some.inj performed
    exact later
  | cons request rest ih =>
    obtain ⟨first, allowed⟩ := List.forall_mem_cons.1 allowed
    obtain ⟨⟨answer, after⟩, did, performed⟩ := Option.bind_eq_some_iff.1 performed
    obtain ⟨others, last, performed⟩ := Option.bind_eq_some_iff.1 performed
    obtain rfl := Option.some.inj performed
    have ended := ih (later.tail (.performed first did)) allowed last
    exact ended

end

/-! ### Legs -/

/-- What a request of the host draws if it puts no actor to work. -/
def Engine.draws (engine : Engine κ) : Request → List Draw
  | .send source destination session payload =>
    if session < 0 then
      [{ counter := source.bind engine.roster.find?
         session := (engine.allocate source).1
         told := (engine.send source destination session payload).1 }]
    else []
  | _ => []

/-- Whether a request puts actors to work. -/
def Request.employs : Request → Bool
  | .create _ _ => true
  | .command _ (.launch _ _) => true
  | .dispatch => true
  | .runUntilIdle => true
  | .awaitCallbacks _ => true
  | .awaitLetters _ => true
  | _ => false

/-- A leg of a run, with what is drawn in it and with the mailbox that a dispatch takes from the run
queue in it, if a dispatch takes place and finds one. -/
inductive Leg (may : Request → Prop) :
    Machine κ → List Draw → List (Option Nat) → Machine κ → Prop where
  | performed {engine after : Engine κ} {fuel : Nat} {request : Request} {answer : Answer}
    (allowed : may request) (direct : request.employs = false)
    (performed : engine.perform? fuel request = some (answer, after)) :
    Leg may { engine, tasks := [] } (engine.draws request) [] { engine := after, tasks := [] }
  /-- Workers that wait let a tick pass. -/
  | ticked (engine : Engine κ) :
    Leg may { engine, tasks := [] } [] [] { engine := engine.advance, tasks := [] }
  | blocked {engine : Engine κ} (idle : engine.roster.exchange.next? = none) :
    Leg may { engine, tasks := [] } [] [none] { engine, tasks := [] }
  | dropped {engine : Engine κ} {box : Nat} {exchange : Exchange}
    (taken : engine.roster.exchange.next? = some (box, exchange))
    (gone : engine.roster.find? (exchange.handleOf box) = none) :
    Leg may { engine, tasks := [] } [] [some box]
      { engine := (engine.taking exchange).dropOrphan box (exchange.handleOf box), tasks := [] }
  | servicing {engine : Engine κ} {box actor : Nat} {exchange : Exchange}
    (taken : engine.roster.exchange.next? = some (box, exchange))
    (live : engine.roster.find? (exchange.handleOf box) = some actor) :
    Leg may { engine, tasks := [] } [] [some box] (engine.servicing box actor exchange)
  | launching {engine : Engine κ} (module args : String) :
    Leg may { engine, tasks := [] } [] [] { engine, tasks := [.launch module args] }
  | commanding {engine : Engine κ} (caller : Handle) (module args : String) :
    Leg may { engine, tasks := [] } [] []
      { engine := engine.note (.commanded caller (Command.launch module args).keyword)
        tasks := [.launch module args] }
  | stepped (machine : Machine κ) : Leg may machine machine.draws [] machine.step
  | launched {engine : Engine κ} (result : Except LaunchError Handle) :
    Leg may { engine, tasks := [.launched result] } [] [] { engine, tasks := [] }
  | serviced {engine : Engine κ} (invoked : Nat) :
    Leg may { engine, tasks := [.serviced invoked] } [] [] { engine, tasks := [] }

/-- A part of a run, with what is drawn and with what dispatches take, the first one in front. -/
inductive Legs (may : Request → Prop) :
    Machine κ → List Draw → List (Option Nat) → Machine κ → Prop where
  | refl (machine : Machine κ) : Legs may machine [] [] machine
  | tail {machine middle last : Machine κ} {draws more : List Draw}
    {served others : List (Option Nat)} (earlier : Legs may machine draws served middle)
    (leg : Leg may middle more others last) :
    Legs may machine (draws ++ more) (served ++ others) last

section

variable {may : Request → Prop} {engine after : Engine κ} {machine middle last : Machine κ}
  {draws more : List Draw} {served others : List (Option Nat)} {fuel : Nat}

private theorem Legs.single (leg : Leg may machine draws served last) :
    Legs may machine draws served last := .tail (.refl machine) leg

theorem Legs.trans (first : Legs may machine draws served middle)
    (second : Legs may middle more others last) :
    Legs may machine (draws ++ more) (served ++ others) last := by
  induction second with
  | refl => rwa [List.append_nil, List.append_nil]
  | tail _ leg ih =>
    rw [← List.append_assoc, ← List.append_assoc]
    exact ih.tail leg

/-! ### Every run has its legs -/

variable (may) in
private theorem Machine.exists_legs_settle (settled : settle? fuel machine = some last) :
    ∃ draws, Legs may machine draws [] last := by
  induction fuel generalizing machine with
  | zero => cases settled
  | succ fuel ih =>
    rw [settle?] at settled
    split at settled
    · obtain rfl := Option.some.inj settled
      exact ⟨[], .refl machine⟩
    · obtain ⟨_, legs⟩ := ih settled
      exact ⟨_, (Legs.single (.stepped machine)).trans legs⟩

namespace Engine

variable (may) in
private theorem exists_legs_launch {module args : String}
    {outcome : Except LaunchError Handle × Engine κ}
    (created : engine.create? fuel module args = some outcome) :
    ∃ draws, Legs may { engine, tasks := [.launch module args] } draws []
      { engine := outcome.2, tasks := [] } := by
  obtain ⟨done, settled, created⟩ := Option.bind_eq_some_iff.1 created
  obtain ⟨_, legs⟩ := Machine.exists_legs_settle may settled
  split at created
  · rename_i result tasks
    obtain rfl := Option.some.inj created
    obtain ⟨now, _⟩ := done
    obtain rfl : _ = _ := tasks
    exact ⟨_, legs.tail (.launched result)⟩
  · cases created

variable (may) in
/-- A dispatch takes the head of the run queue, and nothing else is taken until it is over. -/
theorem exists_legs_dispatchOnce {outcome : DispatchOutcome × Engine κ}
    (dispatched : engine.dispatchOnce? fuel = some outcome) :
    ∃ draws, Legs may { engine, tasks := [] } draws [engine.roster.exchange.next?.map (·.1)]
      { engine := outcome.2, tasks := [] } := by
  unfold dispatchOnce? at dispatched
  split at dispatched
  · rename_i idle
    obtain rfl := Option.some.inj dispatched
    rw [idle]
    exact ⟨[], .single (.blocked idle)⟩
  · rename_i box exchange taken
    rw [taken]
    dsimp only at dispatched
    split at dispatched
    · rename_i gone
      obtain rfl := Option.some.inj dispatched
      exact ⟨[], .single (.dropped taken gone)⟩
    · rename_i actor live
      obtain ⟨done, settled, dispatched⟩ := Option.bind_eq_some_iff.1 dispatched
      obtain ⟨_, legs⟩ := Machine.exists_legs_settle may settled
      have whole : Legs may { engine, tasks := [] } _ [some box] done :=
        (Legs.single (.servicing taken live)).trans legs
      split at dispatched
      · rename_i invoked tasks
        obtain rfl := Option.some.inj dispatched
        obtain ⟨now, _⟩ := done
        obtain rfl : _ = _ := tasks
        exact ⟨_, whole.tail (.serviced invoked)⟩
      · cases dispatched

variable (may) in
private theorem exists_legs_serviceMany {services invoked : Nat} {outcome : Nat × Engine κ}
    (serviced : runUntilIdle?.serviceMany fuel services invoked engine = some outcome) :
    ∃ draws served, Legs may { engine, tasks := [] } draws served
      { engine := outcome.2, tasks := [] } := by
  induction services generalizing engine invoked with
  | zero => cases serviced
  | succ services ih =>
    rw [runUntilIdle?.serviceMany] at serviced
    split at serviced
    · cases serviced
    · rename_i dispatched
      obtain rfl := Option.some.inj serviced
      obtain ⟨_, legs⟩ := exists_legs_dispatchOnce may dispatched
      exact ⟨_, _, legs⟩
    · rename_i dispatched
      obtain ⟨_, first⟩ := exists_legs_dispatchOnce may dispatched
      obtain ⟨_, _, rest⟩ := ih serviced
      exact ⟨_, _, first.trans rest⟩
    · rename_i dispatched
      obtain ⟨_, first⟩ := exists_legs_dispatchOnce may dispatched
      obtain ⟨_, _, rest⟩ := ih serviced
      exact ⟨_, _, first.trans rest⟩

variable (may) in
private theorem exists_legs_workUntil {met : Engine κ → Bool}
    (worked : engine.workUntil? fuel met = some after) :
    ∃ draws served, Legs may { engine, tasks := [] } draws served
      { engine := after, tasks := [] } := by
  have ticked (ticks : Nat) : ∀ {engine : Engine κ},
      workUntil?.tickUntil fuel met ticks engine = some after →
        ∃ draws served, Legs may { engine, tasks := [] } draws served
          { engine := after, tasks := [] } := by
    induction ticks with
    | zero => exact fun ticked => nomatch ticked
    | succ ticks ih =>
      intro engine ticked
      obtain ⟨⟨_, idle⟩, serviced, ticked⟩ := Option.bind_eq_some_iff.1 ticked
      obtain ⟨_, _, legs⟩ := exists_legs_serviceMany may serviced
      dsimp only at ticked
      split at ticked
      · obtain rfl := Option.some.inj ticked
        exact ⟨_, _, legs⟩
      · obtain ⟨_, _, later⟩ := ih ticked
        exact ⟨_, _, (legs.tail (.ticked idle)).trans later⟩
  unfold workUntil? at worked
  split at worked
  · exact ticked fuel worked
  · obtain rfl := Option.some.inj worked
    exact ⟨[], [], .refl _⟩

theorem exists_legs_perform {request : Request} {answer : Answer} (allowed : may request)
    (performed : engine.perform? fuel request = some (answer, after)) :
    ∃ draws served, Legs may { engine, tasks := [] } draws served
      { engine := after, tasks := [] } := by
  cases employs : request.employs with
  | false => exact ⟨_, _, .single (.performed allowed employs performed)⟩
  | true =>
    cases request with
    | create module args =>
      obtain ⟨_, created, same⟩ := Option.map_eq_some_iff.1 performed
      obtain ⟨_, rfl⟩ := Prod.mk.inj same
      obtain ⟨_, legs⟩ := exists_legs_launch may created
      exact ⟨_, _, (Legs.single (.launching module args)).trans legs⟩
    | command caller command =>
      obtain ⟨_, commanded, same⟩ := Option.map_eq_some_iff.1 performed
      obtain ⟨_, rfl⟩ := Prod.mk.inj same
      cases command with
      | launch module args =>
        obtain ⟨_, created, rfl⟩ := Option.map_eq_some_iff.1 commanded
        obtain ⟨_, legs⟩ := exists_legs_launch may created
        exact ⟨_, _, (Legs.single (.commanding caller module args)).trans legs⟩
      | _ => cases employs
    | dispatch =>
      obtain ⟨_, dispatched, same⟩ := Option.map_eq_some_iff.1 performed
      obtain ⟨_, rfl⟩ := Prod.mk.inj same
      obtain ⟨_, legs⟩ := exists_legs_dispatchOnce may dispatched
      exact ⟨_, _, legs⟩
    | runUntilIdle =>
      obtain ⟨_, serviced, same⟩ := Option.map_eq_some_iff.1 performed
      obtain ⟨_, rfl⟩ := Prod.mk.inj same
      exact exists_legs_serviceMany may serviced
    | awaitCallbacks count =>
      obtain ⟨_, worked, same⟩ := Option.map_eq_some_iff.1 performed
      obtain ⟨_, rfl⟩ := Prod.mk.inj same
      exact exists_legs_workUntil may worked
    | awaitLetters count =>
      obtain ⟨_, worked, same⟩ := Option.map_eq_some_iff.1 performed
      obtain ⟨_, rfl⟩ := Prod.mk.inj same
      exact exists_legs_workUntil may worked
    | _ => cases employs

end Engine

theorem Next.exists_legs (next : Next may machine last) :
    ∃ draws served, Legs may machine draws served last := by
  cases next with
  | performed allowed performed => exact Engine.exists_legs_perform allowed performed
  | launching module args => exact ⟨_, _, .single (.launching module args)⟩
  | commanding caller module args => exact ⟨_, _, .single (.commanding caller module args)⟩
  | servicing taken live => exact ⟨_, _, .single (.servicing taken live)⟩
  | stepped => exact ⟨_, _, .single (.stepped machine)⟩
  | launched result => exact ⟨_, _, .single (.launched result)⟩
  | serviced invoked => exact ⟨_, _, .single (.serviced invoked)⟩

/-- Whatever the host does has its legs. -/
theorem Later.exists_legs (later : Later may machine last) :
    ∃ draws served, Legs may machine draws served last := by
  induction later with
  | refl => exact ⟨[], [], .refl machine⟩
  | tail _ next ih =>
    obtain ⟨_, _, legs⟩ := ih
    obtain ⟨_, _, more⟩ := next.exists_legs
    exact ⟨_, _, legs.trans more⟩

private theorem Leg.next (leg : Leg may machine draws served last) (dispatches : may .dispatch)
    (advances : may .advance) : Next may machine last := by
  have dispatched {engine after : Engine κ} {outcome : DispatchOutcome}
      (dispatched : engine.dispatchOnce? 0 = some (outcome, after)) :
      Next may { engine, tasks := [] } { engine := after, tasks := [] } := by
    have performed : engine.perform? 0 .dispatch = some (.dispatched outcome, after) :=
      Option.map_eq_some_iff.2 ⟨_, dispatched, rfl⟩
    exact .performed dispatches performed
  cases leg with
  | performed allowed direct performed => exact .performed allowed performed
  | ticked engine =>
    have advanced : engine.perform? 0 .advance = some (.done, engine.advance) := rfl
    exact .performed advances advanced
  | blocked idle => exact dispatched (by rw [Engine.dispatchOnce?, idle])
  | @dropped engine box exchange taken gone =>
    have absent : (engine.taking exchange).roster.find? (exchange.handleOf box) = none := gone
    apply dispatched
    rw [Engine.taking] at absent
    simp only [Engine.dispatchOnce?, taken, absent]
    rfl
  | servicing taken live => exact .servicing taken live
  | launching module args => exact .launching module args
  | commanding caller module args => exact .commanding caller module args
  | stepped => exact .stepped machine
  | launched result => exact .launched result
  | serviced invoked => exact .serviced invoked

theorem Legs.later (legs : Legs may machine draws served last) (dispatches : may .dispatch)
    (advances : may .advance) : Later may machine last := by
  induction legs with
  | refl => exact .refl
  | tail _ leg ih => exact ih.tail (leg.next dispatches advances)

end

end Mailroom
