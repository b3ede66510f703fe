import Mailroom.Proofs.Engine.Belongings
import Mailroom.Proofs.Engine.Sends
/-! # Sessions that are drawn

Whatever else goes on, what is drawn from one counter are consecutive sessions, and no session comes
back before all the others have been drawn.
-/

namespace Mailroom

variable {κ : Type}

/-! ### Consecutive sessions -/

/-- The sessions that were drawn from one counter. -/
def drawnFrom (counter : Option Nat) (draws : List Draw) : List Int32 :=
  (draws.filter (·.counter = counter)).map (·.session)

/-- The sessions that a counter gives, from the one it gave last. -/
def sessionsFrom (last : Int32) (count : Nat) : List Int32 :=
  (List.range count).map fun index => nextSession^[index + 1] last

/-- Sessions that are positive, and of which any two that are fewer than 2^31 - 1 places apart
differ. -/
structure Apart (sessions : List Int32) : Prop where
  positive : ∀ session ∈ sessions, 1 ≤ session ∧ session ≤ Int32.maxValue
  distinct {first second : Nat} {session : Int32} (before : first < second)
    (near : second - first < 2 ^ 31 - 1) (drawn : sessions[first]? = some session) :
    sessions[second]? ≠ some session

private theorem toInt_nextSession {last : Int32} (positive : 0 < last) :
    (nextSession last).toInt = last.toInt % (2 ^ 31 - 1) + 1 := by
  have above : 0 < last.toInt := Int32.lt_iff_toInt_lt.1 positive
  have below := last.toInt_lt
  unfold nextSession
  split
  · rename_i ends
    obtain negative | rfl := ends
    · exact absurd positive (Int32.not_lt.2 (Int32.le_of_lt negative))
    · rfl
  · rename_i inside
    rw [not_or, ← Int32.toInt_inj] at inside
    have high : last.toInt ≠ 2147483647 := inside.2
    rw [Int32.toInt_add]
    change (last.toInt + 1).bmod (2 ^ 32) = _
    rw [Int.bmod_eq_of_le] <;> omega

/-- A counter runs around the positive sessions. -/
theorem toInt_iterate_nextSession {last : Int32} (positive : 0 < last) (count : Nat) :
    (nextSession^[count] last).toInt = (last.toInt - 1 + count) % (2 ^ 31 - 1) + 1 := by
  induction count generalizing last with
  | zero =>
    have above : 0 < last.toInt := Int32.lt_iff_toInt_lt.1 positive
    have below := last.toInt_lt
    rw [Function.iterate_zero_apply]
    omega
  | succ count ih =>
    rw [Function.iterate_succ_apply, ih (nextSession_pos last), toInt_nextSession positive]
    omega

private theorem eq_of_getElem?_sessionsFrom {last session : Int32} {count index : Nat}
    (drawn : (sessionsFrom last count)[index]? = some session) :
    nextSession^[index + 1] last = session := by
  rw [sessionsFrom, List.getElem?_map] at drawn
  obtain ⟨place, seen, rfl⟩ := Option.map_eq_some_iff.1 drawn
  obtain ⟨bound, rfl⟩ := List.getElem?_eq_some_iff.1 seen
  rw [List.getElem_range]

private theorem apart_sessionsFrom (last : Int32) (count : Nat) :
    Apart (sessionsFrom last count) where
  positive session member := by
    obtain ⟨index, _, rfl⟩ := List.mem_map.1 member
    rw [Function.iterate_succ_apply']
    have positive : 0 < (nextSession (nextSession^[index] last)).toInt :=
      Int32.lt_iff_toInt_lt.1 (nextSession_pos _)
    refine ⟨Int32.le_iff_toInt_le.2 positive, Int32.le_iff_toInt_le.2 (Int.le_of_lt_add_one ?_)⟩
    exact (nextSession (nextSession^[index] last)).toInt_lt
  distinct {first second session} before near drawn again := by
    have same := congrArg Int32.toInt ((eq_of_getElem?_sessionsFrom drawn).trans
      (eq_of_getElem?_sessionsFrom again).symm)
    rw [Function.iterate_succ_apply, Function.iterate_succ_apply,
      toInt_iterate_nextSession (nextSession_pos last),
      toInt_iterate_nextSession (nextSession_pos last)] at same
    omega

variable {may : Request → Prop} {engine after : Engine κ} {machine last : Machine κ}
  {draws more : List Draw} {served : List (Option Nat)}

/-! ### Who is at work -/

/-- Whoever is at work is an actor that there is. -/
def Machine.Staffed (machine : Machine κ) : Prop :=
  ∀ task ∈ machine.tasks, ∀ number, task.worker? = some number →
    ∃ handle, machine.engine.roster.handle? number = some handle

private theorem Machine.staffed_rest (engine : Engine κ) :
    Machine.Staffed { engine, tasks := [] } :=
  fun _ member => nomatch member

private theorem Machine.staffed_of_idle (engine : Engine κ) {only : Task κ}
    (idle : only.worker? = none) :
    Machine.Staffed { engine, tasks := [only] } := by
  intro task member number works
  rw [List.mem_singleton.1 member, idle] at works
  cases works

theorem Machine.Staffed.step (staffed : machine.Staffed) (consistent : Consistent machine.state) :
    machine.step.Staffed := by
  intro task member number works
  have course : Course .any (fun _ => True) machine.state machine.step.state := machine.course_step
  have moves := course.moves consistent
  obtain ⟨before, old, worked⟩ | ⟨rfl, grown⟩ | ⟨found, seen, _⟩ := worker?_of_step member works
  · obtain ⟨handle, has⟩ := staffed before old number worked
    exact ⟨handle, moves.handle?_eq_some has⟩
  · exact ⟨_, congrArg (Option.map _) (Array.getElem?_eq_getElem grown)⟩
  · have has : machine.engine.roster.handle? number = some found.handle :=
      congrArg (Option.map _) seen
    exact ⟨_, moves.handle?_eq_some has⟩

private theorem Leg.staffed (leg : Leg may machine draws served last) (staffed : machine.Staffed)
    (consistent : Consistent machine.state) : last.Staffed := by
  cases leg with
  | servicing taken live => exact Machine.staffed_of_idle _ rfl
  | launching module args => exact Machine.staffed_of_idle _ rfl
  | commanding caller module args => exact Machine.staffed_of_idle _ rfl
  | stepped => exact staffed.step consistent
  | _ => exact Machine.staffed_rest _

private theorem Legs.staffed (legs : Legs may machine draws served last) (staffed : machine.Staffed)
    (consistent : Consistent machine.state) : last.Staffed := by
  induction legs with
  | refl => exact staffed
  | tail earlier leg ih => exact leg.staffed ih (earlier.consistent consistent)

/-! ### What a leg draws -/

/-- Everything but that a session is drawn. -/
def Scope.undrawn : Scope := { Scope.any with draws := fun _ => False }

namespace Engine

private theorem Steady.lastOf_eq (steady : engine.Steady .undrawn after) (counter : Option Nat) :
    after.lastOf counter = engine.lastOf counter := by
  cases counter with
  | none => exact steady.counts.resolve_left id
  | some actor => exact Roster.Moves.lastSession_eq (steady.roster.moves []) id

private theorem lastOf_sendTo (engine : Engine κ) (destination : Address) (message : Message)
    (counter : Option Nat) :
    (engine.sendTo destination message).2.lastOf counter = engine.lastOf counter :=
  (engine.steady_sendTo destination message).lastOf_eq counter

/-- A counter that there is. -/
def Counts (engine : Engine κ) (counter : Option Nat) : Prop :=
  ∀ actor, counter = some actor → ∃ handle, engine.roster.handle? actor = some handle

private theorem lastOf_charge {counter : Option Nat} (counts : engine.Counts counter)
    (session : Int32) (other : Option Nat) :
    (engine.charge counter session).lastOf other =
      if counter = other then session else engine.lastOf other := by
  cases counter with
  | none => cases other <;> rfl
  | some actor =>
    cases other with
    | none => rfl
    | some number =>
      obtain ⟨_, has⟩ := counts actor rfl
      obtain ⟨found, seen, _⟩ := Option.map_eq_some_iff.1 has
      have modified := engine.roster.actor?_modify actor ({ · with lastSession := session }) number
      have after : (engine.charge (some actor) session).lastOf (some number) = _ :=
        congrArg (fun found => (Option.map Actor.lastSession found).getD 0) modified
      rw [after]
      by_cases same : actor = number
      · rw [if_pos same, if_pos (congrArg some same), ← same, seen]
        rfl
      · rw [if_neg same, if_neg fun again => same (Option.some.inj again)]
        rfl

/-- What is drawn on the way from one engine to another: nothing, and then every counter is where it
was; or one session, which is the next one of its counter, and then only this counter is another. -/
inductive Drawn (engine after : Engine κ) : List Draw → Prop where
  | nothing (same : ∀ counter, after.lastOf counter = engine.lastOf counter) : Drawn engine after []
  | session {draw : Draw} (next : draw.session = nextSession (engine.lastOf draw.counter))
    (told : ∀ session, draw.told = .ok session → session = draw.session)
    (moved : ∀ counter, after.lastOf counter =
      if draw.counter = counter then draw.session else engine.lastOf counter) :
    Drawn engine after [draw]

private theorem eq_of_sendTo {destination : Address} {message : Message} {session : Int32}
    (sent : (engine.sendTo destination message).1 = .ok session) : session = message.session := by
  have told (result : Except SendError Unit)
      (same : (result.map fun _ => message.session) = .ok session) : session = message.session := by
    cases result with
    | ok => exact (Except.ok.inj same).symm
    | error cause => cases same
  exact told _ sent

/-- A send whose session is drawn from a counter. -/
theorem drawn_sendTo {counter : Option Nat} (counts : engine.Counts counter)
    (source : Option Handle) (destination : Address) (payload : Payload) :
    let fresh := nextSession (engine.lastOf counter)
    let sent := (engine.charge counter fresh).sendTo destination ⟨source, fresh, payload⟩
    engine.Drawn sent.2 [{ counter, session := fresh, told := sent.1 }] := by
  refine .session rfl (fun session told => eq_of_sendTo told) fun other => ?_
  rw [lastOf_sendTo, lastOf_charge counts]

private theorem drawn_send {source : Option Handle}
    (counts : engine.Counts (source.bind engine.roster.find?)) (destination : Address)
    (session : Int32) (payload : Payload) :
    engine.Drawn (engine.send source destination session payload).2
      (engine.draws (.send source destination session payload)) := by
  rw [draws]
  split
  · rename_i asked
    rw [Engine.send, if_pos asked, engine.allocate_eq]
    exact drawn_sendTo counts source destination payload
  · rename_i given
    rw [Engine.send, if_neg given]
    exact .nothing (engine.lastOf_sendTo destination _)

private theorem drawn_sendAs {actor : Nat} (counts : engine.Counts (some actor))
    (destination : Address) (session : Int32) (payload : Payload) :
    engine.Drawn (engine.sendAs actor destination session payload).2
      (if session < 0 then
        [{ counter := some actor
           session := (engine.allocateFor actor).1
           told := (engine.sendAs actor destination session payload).1 }]
      else []) := by
  split
  · rename_i asked
    rw [sendAs, if_pos asked, engine.allocateFor_eq]
    exact drawn_sendTo counts _ destination payload
  · rename_i given
    rw [sendAs, if_neg given]
    exact .nothing (engine.lastOf_sendTo destination _)

end Engine

/-- A leg draws nothing or one session. -/
theorem Leg.drawn (leg : Leg may machine draws served last) (staffed : machine.Staffed)
    (consistent : Consistent machine.state) : machine.engine.Drawn last.engine draws := by
  have nothing (none : draws = []) : machine.engine.Drawn last.engine draws := by
    subst none
    have course : Course .undrawn may machine.state last.state :=
      leg.course consistent trivial nofun fun _ _ => trivial
    refine .nothing fun counter => ?_
    cases counter with
    | none => exact course.lastSession_eq id
    | some actor => exact Roster.Moves.lastSession_eq (course.moves consistent) id
  cases leg with
  | @performed engine after fuel request answer allowed direct performed =>
    cases request with
    | send source destination session payload =>
      obtain ⟨_, rfl⟩ := Prod.mk.inj (Option.some.inj performed)
      refine Engine.drawn_send (fun actor live => ?_) destination session payload
      obtain ⟨handle, _, live⟩ := Option.bind_eq_some_iff.1 live
      exact ⟨handle, consistent.sound.listed live⟩
    | _ => exact nothing rfl
  | stepped =>
    obtain ⟨engine, tasks⟩ := machine
    unfold Machine.draws at nothing ⊢
    dsimp only at nothing ⊢
    split at nothing
    · exact Engine.drawn_sendAs (fun number => staffed _ List.mem_cons_self number) ..
    · exact nothing rfl
  | _ => exact nothing rfl

/-! ### What a stretch draws -/

theorem drawnFrom_append (counter : Option Nat) (draws more : List Draw) :
    drawnFrom counter (draws ++ more) = drawnFrom counter draws ++ drawnFrom counter more := by
  rw [drawnFrom, List.filter_append, List.map_append]
  rfl

private theorem drawnFrom_singleton (counter : Option Nat) (draw : Draw) :
    drawnFrom counter [draw] = if draw.counter = counter then [draw.session] else [] := by
  by_cases same : draw.counter = counter <;> simp [drawnFrom, same]

private theorem sessionsFrom_succ (last : Int32) (count : Nat) :
    sessionsFrom last (count + 1) = sessionsFrom last count ++ [nextSession^[count + 1] last] := by
  rw [sessionsFrom, List.range_succ, List.map_append]
  rfl

/-- What is drawn from each counter on the way from one engine to another are the sessions that come
next on it, it stands where they end, and no sender is told another session than it has drawn. -/
structure Engine.Follows (engine after : Engine κ) (draws : List Draw) : Prop where
  told : ∀ draw ∈ draws, ∀ session, draw.told = .ok session → session = draw.session
  drawn (counter : Option Nat) : drawnFrom counter draws =
    sessionsFrom (engine.lastOf counter) (drawnFrom counter draws).length
  lastOf (counter : Option Nat) : after.lastOf counter =
    nextSession^[(drawnFrom counter draws).length] (engine.lastOf counter)

private theorem Engine.Follows.tail {between : Engine κ} (follows : engine.Follows between draws)
    (drawn : between.Drawn after more) : engine.Follows after (draws ++ more) := by
  cases drawn with
  | nothing same =>
    rw [List.append_nil]
    exact ⟨follows.told, follows.drawn,
      fun counter => (same counter).trans (follows.lastOf counter)⟩
  | @session draw next told moved =>
    refine ⟨fun other member => ?_, fun counter => ?_, fun counter => ?_⟩
    · obtain old | rfl := List.mem_append.1 member |>.imp_right List.mem_singleton.1
      · exact follows.told other old
      · exact told
    · rw [drawnFrom_append, drawnFrom_singleton]
      split
      · rename_i same
        subst same
        rw [List.length_append, List.length_singleton, sessionsFrom_succ, ← follows.drawn, next,
          follows.lastOf, Function.iterate_succ_apply']
      · rw [List.append_nil]
        exact follows.drawn counter
    · rw [moved, drawnFrom_append, drawnFrom_singleton]
      split
      · rename_i same
        subst same
        rw [List.length_append, List.length_singleton, next, follows.lastOf,
          Function.iterate_succ_apply']
      · rw [List.append_nil]
        exact follows.lastOf counter

private theorem Legs.follows (legs : Legs may machine draws served last) (staffed : machine.Staffed)
    (consistent : Consistent machine.state) : machine.engine.Follows last.engine draws := by
  induction legs with
  | refl => exact ⟨nofun, fun _ => rfl, fun _ => rfl⟩
  | tail earlier leg ih =>
    exact ih.tail (leg.drawn (earlier.staffed staffed consistent) (earlier.consistent consistent))

/-- A part of a run, with what is drawn in it, the first draw in front. -/
def Stretch (machine : Machine κ) (draws : List Draw) (last : Machine κ) : Prop :=
  ∃ served, Legs (fun _ => True) machine draws served last

namespace Reachable

variable {config : Config} {modules : List (String × Module κ)}

private theorem staffed (reached : Reachable config modules machine) : machine.Staffed := by
  obtain ⟨engine, created, later⟩ := reached.exists_later
  obtain ⟨_, _, legs⟩ := later.exists_legs
  exact legs.staffed (Machine.staffed_rest engine) (Engine.consistent_create created)

/-- Whatever goes on, what is drawn from one counter, that of an actor or the engine's own, are the
sessions that come next on it. An actor's own sends and those of the host with the handle of that
live actor as their source are charged to its counter, and those of the host without a live source
to the engine's. Consecutive sessions are positive, and one comes back only after all the others. -/
theorem sessions_are_apart (reached : Reachable config modules machine) :
    (∀ last, Later (fun _ => True) machine last ↔ ∃ draws, Stretch machine draws last) ∧
    (∀ draws last, Stretch machine draws last → machine.engine.Follows last.engine draws ∧
      ∀ counter, Apart (drawnFrom counter draws)) ∧
    ∀ last count, Apart (sessionsFrom last count) := by
  refine ⟨fun last => ⟨fun later => ?_, fun ⟨_, _, legs⟩ => legs.later trivial trivial⟩,
    fun draws last ⟨_, legs⟩ => ?_, apart_sessionsFrom⟩
  · obtain ⟨draws, served, legs⟩ := later.exists_legs
    exact ⟨draws, served, legs⟩
  have follows := legs.follows reached.staffed reached.consistent
  refine ⟨follows, fun counter => ?_⟩
  rw [follows.drawn]
  exact apart_sessionsFrom _ _

end Reachable

/-- A module whose actors send themselves two messages at first, one of them on a new session. -/
def asker : Module Unit where
  create := .ok {
    init := fun own _ =>
      .send (.handle own) (-1) [] fun _ => .send (.handle own) 7 [] fun _ => .finish (.ok ())
    receive := fun _ _ _ => .finish (.ok ()) }

/-- Of four sends that ask for a new session, the actor's own and one that the host makes with its
handle share a counter. Those of the host without a live source share another. -/
theorem Reachable.sessions_are_apart_of_asker :
    ∃ machine last draws, Reachable Config.standard [("ask", asker)] machine ∧
      Stretch machine draws last ∧ machine.engine.Follows last.engine draws ∧
      drawnFrom (some 0) draws = [1, 2] ∧ drawnFrom none draws = [1, 2] ∧
      Apart (drawnFrom (some 0) draws) := by
  have created : Engine.create Config.standard [("ask", asker)] = .ok _ := rfl
  have reached := Reachable.created created
  have here {machine : Machine Unit} (_ : Reachable Config.standard [("ask", asker)] machine) :
      Legs (fun _ => True) machine [] [] machine := .refl machine
  have launched := (((((here reached).tail (.launching "ask" "")).tail (.stepped _)).tail
    (.stepped _)).tail (.stepped _)).tail (.stepped _)
  have sends (source : Option Handle) {engine : Engine Unit} :
      Leg (fun _ => True) { engine, tasks := [] }
        (engine.draws (.send source (.handle ⟨1⟩) (-1) [])) []
        { engine := (engine.send source (.handle ⟨1⟩) (-1) []).2, tasks := [] } :=
    @Leg.performed _ _ _ _ 0 _ _ trivial rfl rfl
  have rested := launched.tail (.launched (.ok ⟨1⟩))
  have legs := ((rested.tail (sends (some ⟨1⟩))).tail (sends none)).tail (sends (some ⟨9⟩))
  obtain ⟨_, draws, _⟩ := reached.sessions_are_apart
  obtain ⟨follows, apart⟩ := draws _ _ ⟨_, legs⟩
  exact ⟨_, _, _, reached, ⟨_, legs⟩, follows, by decide +kernel, by decide +kernel, apart (some 0)⟩

end Mailroom
