import Mailroom.Proofs.Engine.Legs
/-! # Runs of an engine

What the host asks for, and what actors do meanwhile, is a course of happenings. So whatever every
happening keeps is so in every state of every run.
-/

namespace Mailroom

variable {κ : Type} {scope : Scope} {may : Request → Prop}

namespace Engine

variable {engine after : Engine κ} {fuel : Nat}

/-- The mailbox of an actor that is gone is in hands only to be emptied. -/
theorem course_dropOrphan {box : Nat} {exchange : Exchange} (takes : scope.takes)
    (taken : engine.roster.exchange.next? = some (box, exchange))
    (gone : engine.roster.find? (exchange.handleOf box) = none) :
    Course scope may (engine, [])
      ((engine.taking exchange).dropOrphan box (exchange.handleOf box), []) := by
  let noted := engine.note (.orphaned (exchange.handleOf box) ((exchange.release box).1.length))
  have begun : Course scope may (engine, []) (noted, []) :=
    .single (.steady (engine.steady_note _ rfl))
  have head : noted.roster.exchange.next? = some (box, exchange) := taken
  have absent : noted.roster.find? (exchange.handleOf box) = none := gone
  exact begun.tail (.discard takes head absent .retired)

/-! ### Shutting down -/

theorem steady_foldl_retire (engine : Engine κ) (handles : List Handle) :
    engine.Steady scope (handles.foldl (fun engine handle => (engine.retire handle).2) engine) := by
  induction handles generalizing engine with
  | nil => exact .refl _
  | cons handle rest ih => exact (engine.steady_retire handle).trans (ih _)

theorem find?_foldl_retire (engine : Engine κ) (handles : List Handle) (other : Handle) :
    (handles.foldl (fun engine handle => (engine.retire handle).2) engine).roster.find? other =
      if other ∈ handles then none else engine.roster.find? other := by
  induction handles generalizing engine with
  | nil => rfl
  | cons handle rest ih =>
    rw [List.foldl_cons, ih, show (engine.retire handle).2.roster.find? other = _ from
      engine.roster.find?_retire handle other]
    by_cases same : other = handle <;> simp [same]

/-- Once nobody is live the mailboxes in the run queue can be emptied. -/
theorem course_drain (takes : scope.takes)
    (vacant : ∀ handle, engine.roster.find? handle = none) (count : Nat) :
    Course scope may (engine, []) (drain count engine, []) := by
  induction count generalizing engine with
  | zero => exact .refl
  | succ count ih =>
    rw [drain]
    split
    · exact .refl
    · rename_i box exchange taken
      let next := (engine.taking exchange).dropWaiting box
      have dropped : Course scope may (engine, []) (next, []) :=
        .single (.discard takes taken (vacant _) .shuttingDown)
      refine dropped.trans (ih fun handle => ?_)
      have frame := Roster.settleBy_frame (engine.taking exchange).roster box
        (exchange.handleOf box) Exchange.release .shuttingDown
      rw [show next.roster = _ from frame]
      exact vacant handle

private theorem course_shutdown (placed : engine.roster.directory.slots.Placed)
    (allowed : may .shutdown) (takes : scope.takes) :
    Course scope may (engine, []) (engine.shutdown, []) := by
  unfold shutdown
  split
  · exact .refl
  · let stopping := { engine with stopping := true }.note .stopping
    let retired := stopping.roster.directory.handles.foldl
      (fun engine handle => (engine.retire handle).2) stopping
    have begun : Course scope may (engine, []) (stopping, []) :=
      (Relation.ReflTransGen.single (.stop allowed)).tail (.steady (steady_note _ .stopping rfl))
    have emptied : Course scope may (engine, []) (retired, []) :=
      begun.tail (.steady (steady_foldl_retire stopping _))
    have vacant (handle : Handle) : retired.roster.find? handle = none := by
      rw [find?_foldl_retire]
      split
      · rfl
      · rename_i absent
        have nobody := (Directory.mem_handles_iff engine.roster.directory handle placed).not.1
          absent
        exact Option.eq_none_iff_forall_ne_some.2 (not_exists.1 nobody)
    let drained := drain retired.roster.exchange.runQueue.length retired
    have stopped : drained.Steady scope ({ drained with running := false }.note .stopped) :=
      ⟨(drained.steady_note .stopped rfl).roster, rfl, rfl, .inr rfl⟩
    exact (emptied.trans (course_drain takes vacant _)).tail (.steady stopped)

/-! ### Requests -/

/-- What a request does if it puts no actor to work. -/
inductive Does (engine : Engine κ) : Request → Engine κ → Prop where
  | nothing (request : Request) : Does engine request engine
  | send (source : Option Handle) (destination : Address) (session : Int32) (payload : Payload) :
    Does engine (.send source destination session payload)
      (engine.send source destination session payload).2
  | obey (caller : Handle) (command : Command) :
    Does engine (.command caller command)
      ((engine.note (.commanded caller command.keyword)).obey caller command).2
  | timeout (target : Handle) (ticks : UInt32) (session : Int32) :
    Does engine (.timeout target ticks session) (engine.timeout target ticks session)
  | advance : Does engine .advance engine.advance
  | updateTime (reading : Nat) : Does engine (.updateTime reading) (engine.updateTime reading).2
  | retire (handle : Handle) : Does engine (.retire handle) (engine.retire handle).2
  | bind (handle : Handle) (name : String) :
    Does engine (.bind handle name) (engine.bind handle name).2
  | subscribe : Does engine .subscribe engine.subscribe
  /-- A subscriber takes letters or goes. -/
  | observe (request : Request) {outlet : Outlet}
    (subscribed : engine.roster.outlet.subscribers ≠ [])
    (copies : outlet.copies = engine.roster.outlet.copies) :
    Does engine request (engine.withOutlet outlet)
  | start (lasting : engine.stopping = false) : Does engine .start
      ({ engine with running := true }.note (.started engine.config.workerThreads))
  | shutdown : Does engine .shutdown engine.shutdown

private theorem does_unsubscribe (unsubscribed : engine.unsubscribe? = some after) :
    engine.Does .unsubscribe after := by
  obtain ⟨newest, head, unsubscribed⟩ := Option.bind_eq_some_iff.1 unsubscribed
  obtain ⟨outlet, gone, unsubscribed⟩ := Option.bind_eq_some_iff.1 unsubscribed
  obtain rfl := Option.some.inj unsubscribed
  have copies : outlet.copies = engine.roster.outlet.copies := by
    unfold Outlet.unsubscribe? at gone
    split at gone
    · exact Option.some.inj gone ▸ rfl
    · cases gone
  exact .observe _ (List.ne_nil_of_mem (List.mem_of_head? head)) copies

private theorem does_receiveAll {outcome : List DeadLetter × Engine κ}
    (received : engine.receiveAll? = some outcome) : engine.Does .receive outcome.2 := by
  obtain ⟨newest, head, received⟩ := Option.bind_eq_some_iff.1 received
  obtain ⟨⟨letters, outlet⟩, took, received⟩ := Option.bind_eq_some_iff.1 received
  obtain rfl := Option.some.inj received
  have copies : outlet.copies = engine.roster.outlet.copies := by
    unfold Outlet.receive? at took
    split at took
    · exact (Prod.mk.inj (Option.some.inj took)).2 ▸ rfl
    · cases took
  exact .observe _ (List.ne_nil_of_mem (List.mem_of_head? head)) copies

private theorem does_start (started : engine.start = .ok after) : engine.Does .start after := by
  unfold start at started
  split at started
  · cases started
  · rename_i lasting
    split at started
    · cases started
    · obtain rfl := Except.ok.inj started
      exact .start (Bool.eq_false_iff.2 lasting)

/-- What is done if a request puts no actor to work. -/
theorem does_perform {request : Request} {answer : Answer} (direct : request.employs = false)
    (performed : engine.perform? fuel request = some (answer, after)) :
    engine.Does request after := by
  have told {given : Answer} {next : Engine κ} (does : engine.Does request next)
      (result : some (given, next) = some (answer, after)) : engine.Does request after :=
    (Prod.mk.inj (Option.some.inj result)).2 ▸ does
  cases request with
  | send source destination session payload => exact told (.send ..) performed
  | command caller command =>
    cases command with
    | launch module args => cases direct
    | _ => exact told (.obey ..) performed
  | timeout target ticks session => exact told (.timeout ..) performed
  | advance => exact told .advance performed
  | updateTime reading => exact told (.updateTime reading) performed
  | retire handle => exact told (.retire handle) performed
  | bind handle name => exact told (.bind ..) performed
  | subscribe => exact told .subscribe performed
  | unsubscribe =>
    dsimp only [perform?] at performed
    split at performed
    · rename_i unsubscribed
      exact told (does_unsubscribe unsubscribed) performed
    · exact told (.nothing _) performed
  | receive =>
    refine told ?_ performed
    cases received : engine.receiveAll? with
    | none => exact .nothing _
    | some outcome => exact does_receiveAll received
  | start =>
    dsimp only [perform?] at performed
    split at performed
    · rename_i started
      exact told (does_start started) performed
    · exact told (.nothing _) performed
  | shutdown => exact told .shutdown performed
  | create module args => cases direct
  | dispatch => cases direct
  | runUntilIdle => cases direct
  | awaitCallbacks count => cases direct
  | awaitLetters count => cases direct
  | _ => exact told (.nothing _) performed

/-- A request that puts no actor to work is one thing that happens, a shutdown apart. -/
theorem Does.happens {request : Request} (does : engine.Does request after)
    (allowed : may request) (lasting : request ≠ .shutdown)
    (counts : ∀ draw ∈ engine.draws request, scope.draws draw.counter) :
    Happens scope may (engine, []) (after, []) := by
  cases does with
  | nothing request => exact .steady (.refl engine)
  | send source destination session payload =>
    refine .steady (engine.steady_send destination payload fun asked => ?_)
    simp only [draws, if_pos asked] at counts
    exact counts _ List.mem_cons_self
  | obey caller command =>
    exact .steady ((engine.steady_note _ rfl).trans (steady_obey _ caller command))
  | timeout target ticks session => exact .steady (engine.steady_timeout ..)
  | advance => exact .steady engine.steady_advance
  | updateTime reading => exact .steady (engine.steady_updateTime reading)
  | retire handle => exact .steady (engine.steady_retire handle)
  | bind handle name => exact .steady (engine.steady_bind handle name)
  | subscribe => exact .subscribe allowed
  | observe request subscribed copies => exact .observe subscribed copies
  | start lasting =>
    let event := Event.started engine.config.workerThreads
    have noted : engine.Steady scope (engine.note event) := engine.steady_note event rfl
    exact .steady ⟨noted.roster, rfl, rfl, .inr rfl⟩
  | shutdown => exact absurd rfl lasting

theorem Does.course {request : Request} (does : engine.Does request after)
    (placed : engine.roster.directory.slots.Placed) (allowed : may request) (takes : scope.takes)
    (counts : ∀ draw ∈ engine.draws request, scope.draws draw.counter) :
    Course scope may (engine, []) (after, []) := by
  by_cases shuts : request = .shutdown
  · subst shuts
    cases does with
    | nothing => exact .refl
    | observe request subscribed copies => exact .single (.observe subscribed copies)
    | shutdown => exact course_shutdown placed allowed takes
  · exact .single (does.happens allowed shuts counts)

end Engine

/-! ### Legs -/

section

variable {machine last : Machine κ} {draws : List Draw} {served : List (Option Nat)}

/-- A leg is a few happenings, which draw from no other counters than the leg. -/
theorem Leg.course (leg : Leg may machine draws served last) (consistent : Consistent machine.state)
    (takes : scope.takes) (counts : ∀ draw ∈ draws, scope.draws draw.counter)
    (serves : ∀ number, machine.setter? = some number → scope.sets number) :
    Course scope may machine.state last.state := by
  cases leg with
  | performed allowed direct performed =>
    exact (Engine.does_perform direct performed).course consistent.sound.placed allowed takes counts
  | ticked engine => exact .single (.steady engine.steady_advance)
  | blocked idle => exact .refl
  | dropped taken gone => exact Engine.course_dropOrphan takes taken gone
  | servicing taken live => exact .single (.take takes taken live)
  | launching module args => exact .refl
  | commanding caller module args => exact .single (.steady (Engine.steady_note _ _ rfl))
  | stepped => exact .single (machine.happens_step counts serves)
  | launched result => exact .refl
  | serviced invoked => exact .refl

theorem Legs.course (legs : Legs may machine draws served last)
    (consistent : Consistent machine.state) : Course .any may machine.state last.state := by
  induction legs with
  | refl => exact .refl
  | tail _ leg ih =>
    exact ih.trans (leg.course (Course.consistent ih consistent) trivial (fun _ _ => trivial)
      fun _ _ => trivial)

theorem Legs.consistent (legs : Legs may machine draws served last)
    (consistent : Consistent machine.state) : Consistent last.state :=
  Course.consistent (legs.course consistent) consistent

theorem Next.course (next : Next may machine last) (consistent : Consistent machine.state) :
    Course .any may machine.state last.state := by
  obtain ⟨_, _, legs⟩ := next.exists_legs
  exact legs.course consistent

theorem Later.course (later : Later may machine last) (consistent : Consistent machine.state) :
    Course .any may machine.state last.state := by
  obtain ⟨_, _, legs⟩ := later.exists_legs
  exact legs.course consistent

end

/-! ### Creating an engine -/

namespace Engine

variable {engine : Engine κ}

/-- An engine begins with nobody in its roster. -/
theorem roster_of_create {config : Config} {modules : List (String × Module κ)}
    (created : create config modules = .ok engine) :
    engine.roster = { Roster.ofSizes config.handleSlots config.runQueueRoom
        config.deadLetterCapacity with
      past := .created config.workerThreads (config.tickLength / 1000000) ::
        (registerAll modules).2 } := by
  unfold create at created
  split at created
  · exact nomatch created
  · obtain rfl := Except.ok.inj created
    rfl

private theorem plain_registerAll (modules : List (String × Module κ)) :
    ∀ event ∈ (registerAll modules).2, event.isPlain = true := by
  let Plain (state : Catalog (Module κ) × List Event) : Prop :=
    ∀ event ∈ state.2, event.isPlain = true
  have begun : Plain (.empty, []) := fun _ member => nomatch member
  refine List.foldlRecOn (motive := Plain) modules _ begun ?_
  rintro ⟨catalog, past⟩ plain ⟨name, module⟩ _
  dsimp only
  split
  · rename_i registered
    unfold Catalog.register at registered
    split at registered
    · exact nomatch registered
    · obtain ⟨_, rfl⟩ := Prod.mk.inj (Except.ok.inj registered)
      exact List.forall_mem_cons.2 ⟨rfl, plain⟩
  · exact plain

/-- When an engine is created nothing has happened to messages or actors. -/
theorem plain_create {config : Config} {modules : List (String × Module κ)}
    (created : create config modules = .ok engine) :
    ∀ event ∈ engine.roster.past, event.isPlain = true := by
  rw [roster_of_create created]
  exact List.forall_mem_cons.2 ⟨rfl, plain_registerAll modules⟩

private theorem sound_create {config : Config} {modules : List (String × Module κ)}
    (created : create config modules = .ok engine) : engine.roster.Sound [] := by
  rw [roster_of_create created]
  exact (Roster.sound_ofSizes _ _ config.deadLetterCapacity).frame _ _

theorem consistent_create {config : Config} {modules : List (String × Module κ)}
    (created : create config modules = .ok engine) : Consistent (engine, []) :=
  ⟨sound_create created, fun _ member => nomatch member⟩

end Engine

/-! ### Reachable states -/

/-- The states in which an engine is found: at rest between two requests, and while the work that a
launch or the servicing of a mailbox takes is in progress. -/
inductive Reachable (config : Config) (modules : List (String × Module κ)) : Machine κ → Prop where
  | created {engine : Engine κ} (created : Engine.create config modules = .ok engine) :
    Reachable config modules { engine, tasks := [] }
  | performed {engine after : Engine κ} {fuel : Nat} {request : Request} {answer : Answer}
    (rested : Reachable config modules { engine, tasks := [] })
    (performed : engine.perform? fuel request = some (answer, after)) :
    Reachable config modules { engine := after, tasks := [] }
  | launching {engine : Engine κ} (rested : Reachable config modules { engine, tasks := [] })
    (module args : String) : Reachable config modules { engine, tasks := [.launch module args] }
  /-- A launch that the host commands in the name of an actor. -/
  | commanding {engine : Engine κ} (rested : Reachable config modules { engine, tasks := [] })
    (caller : Handle) (module args : String) : Reachable config modules
      { engine := engine.note (.commanded caller (Command.launch module args).keyword)
        tasks := [.launch module args] }
  | servicing {engine : Engine κ} {box actor : Nat} {exchange : Exchange}
    (rested : Reachable config modules { engine, tasks := [] })
    (taken : engine.roster.exchange.next? = some (box, exchange))
    (live : engine.roster.find? (exchange.handleOf box) = some actor) :
    Reachable config modules (engine.servicing box actor exchange)
  | stepped {machine : Machine κ} (reached : Reachable config modules machine) :
    Reachable config modules machine.step

namespace Reachable

variable {config : Config} {modules : List (String × Module κ)} {machine : Machine κ}

theorem exists_later (reached : Reachable config modules machine) :
    ∃ engine : Engine κ, Engine.create config modules = .ok engine ∧
      Later (fun _ => True) { engine, tasks := [] } machine := by
  induction reached with
  | created created => exact ⟨_, created, .refl⟩
  | performed _ performed ih =>
    obtain ⟨engine, created, later⟩ := ih
    exact ⟨engine, created, later.tail (.performed trivial performed)⟩
  | launching _ module args ih =>
    obtain ⟨engine, created, later⟩ := ih
    exact ⟨engine, created, later.tail (.launching module args)⟩
  | commanding _ caller module args ih =>
    obtain ⟨engine, created, later⟩ := ih
    exact ⟨engine, created, later.tail (.commanding caller module args)⟩
  | servicing _ taken live ih =>
    obtain ⟨engine, created, later⟩ := ih
    exact ⟨engine, created, later.tail (.servicing taken live)⟩
  | stepped _ ih =>
    obtain ⟨engine, created, later⟩ := ih
    exact ⟨engine, created, later.tail (.stepped _)⟩

/-- Every reachable state comes of what happened to an engine that was created. -/
theorem course (reached : Reachable config modules machine) :
    ∃ engine : Engine κ, Engine.create config modules = .ok engine ∧
      Course .any (fun _ => True) (engine, []) machine.state := by
  obtain ⟨engine, created, later⟩ := reached.exists_later
  exact ⟨engine, created, Later.course later (Engine.consistent_create created)⟩

theorem consistent (reached : Reachable config modules machine) : Consistent machine.state := by
  obtain ⟨engine, created, course⟩ := reached.course
  exact Course.consistent course (Engine.consistent_create created)

theorem sound (reached : Reachable config modules machine) :
    machine.engine.roster.Sound machine.hands := by
  rw [machine.hands_eq]
  exact reached.consistent.sound

/-- Every history of requests ends in a reachable state. -/
theorem performAll {engine : Engine κ} (rested : Reachable config modules { engine, tasks := [] })
    {fuel : Nat} {requests : List Request} {outcome : List Answer × Engine κ}
    (performed : engine.performAll? fuel requests = some outcome) :
    Reachable config modules { engine := outcome.2, tasks := [] } := by
  induction requests generalizing engine outcome with
  | nil =>
    obtain rfl := Option.some.inj performed
    exact rested
  | cons request rest ih =>
    obtain ⟨⟨answer, after⟩, did, performed⟩ := Option.bind_eq_some_iff.1 performed
    obtain ⟨others, later, performed⟩ := Option.bind_eq_some_iff.1 performed
    obtain rfl := Option.some.inj performed
    have ended := ih (rested.performed did) later
    exact ended

end Reachable

end Mailroom
