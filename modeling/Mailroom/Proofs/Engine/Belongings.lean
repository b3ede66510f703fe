import Mailroom.Proofs.Engine.Runs
/-! # What actors have of their own

An actor's callback and its counter of sessions are its own: a counter changes only when a session
is drawn from it, and a callback only when it is set. Whoever comes to be has neither a callback nor
a session yet. Nor does anything but a send change the engine's own counter.
-/

namespace Mailroom

variable {κ : Type} {scope : Scope}

namespace Roster

variable {roster : Roster κ} {start stop : Roster κ × List Nat} {actor number : Nat}

theorem actor?_size (roster : Roster κ) : roster.actor? roster.actors.size = none :=
  Array.getElem?_eq_none (Nat.le_refl _)

private theorem actor?_push {grown : Roster κ} {added : Actor κ}
    (pushed : grown.actors = roster.actors.push added) (number : Nat) :
    grown.actor? number =
      if number = roster.actors.size then some added else roster.actor? number := by
  rw [actor?, pushed, Array.getElem?_push, actor?]

theorem actor?_modify (roster : Roster κ) (actor : Nat) (change : Actor κ → Actor κ)
    (number : Nat) :
    (roster.modify actor change).actor? number =
      if actor = number then (roster.actor? number).map change else roster.actor? number :=
  Array.getElem?_modify

/-- What a move does to the actors. -/
inductive Changes (scope : Scope) (roster : Roster κ) : Roster κ → Prop where
  | nothing {after : Roster κ} (same : after.actors = roster.actors) : Changes scope roster after
  /-- Who comes to be has nothing of its own yet. -/
  | joined {after : Roster κ} {added : Actor κ} (pushed : after.actors = roster.actors.push added)
    (unset : added.callback = none) (undrawn : added.lastSession = 0) : Changes scope roster after
  | changed (actor : Nat) {change : Actor κ → Actor κ}
    (counts : scope.draws (some actor) ∨ ∀ found, (change found).lastSession = found.lastSession)
    (serves : scope.sets actor ∨ ∀ found, (change found).callback = found.callback) :
    Changes scope roster (roster.modify actor change)

private theorem Move.changes (move : Move scope start stop) : start.1.Changes scope stop.1 := by
  cases move with
  | note event silent => exact .nothing rfl
  | refuse destination reason message => exact .nothing rfl
  | post live message => exact .nothing (by rw [post_frame])
  | finish box => exact .nothing (by rw [Roster.finish, settleBy_frame])
  | release gone reason => exact .nothing (by rw [Roster.release, settleBy_frame])
  | markReleased gone => exact .nothing (by rw [settleBy_frame])
  | next allowed taken => exact .nothing rfl
  | invoke taken belongs has => exact .nothing rfl
  | skip taken => exact .nothing rfl
  | enroll module args behaviour capacity =>
    rw [enroll_eq]
    dsimp only
    split
    · exact .nothing rfl
    · exact .joined rfl rfl rfl
  | unlist handle => exact .nothing rfl
  | rename bound => exact .nothing rfl
  | modify actor keeps counts serves => exact .changed actor counts serves
  | outlet outlet => exact .nothing rfl

/-! ### Counters -/

/-- The session that was last drawn from an actor's counter. -/
def lastSession (roster : Roster κ) (actor : Nat) : Int32 :=
  ((roster.actor? actor).map (·.lastSession)).getD 0

private theorem Changes.lastSession_eq {after : Roster κ} (changes : roster.Changes scope after)
    (kept : ¬ scope.draws (some number)) :
    after.lastSession number = roster.lastSession number := by
  cases changes with
  | nothing same => rw [lastSession, actor?, same, lastSession, actor?]
  | joined pushed unset undrawn =>
    rw [lastSession, actor?_push pushed]
    split
    · rename_i new
      rw [lastSession, new, actor?_size]
      exact undrawn
    · rfl
  | changed actor counts serves =>
    rw [lastSession, actor?_modify]
    split
    · rename_i same
      obtain draws | counts := counts
      · exact absurd (same ▸ draws) kept
      · rw [Option.map_map, Function.comp_def]
        simp only [counts]
        rfl
    · rfl

theorem Moves.lastSession_eq (moves : Moves scope start stop) (kept : ¬ scope.draws (some number)) :
    stop.1.lastSession number = start.1.lastSession number := by
  induction moves with
  | refl => rfl
  | tail _ move ih => exact (move.changes.lastSession_eq kept).trans ih

/-! ### Callbacks -/

/-- Whether an actor has a callback, if there is such an actor. -/
def answers? (roster : Roster κ) (actor : Nat) : Option Bool :=
  (roster.actor? actor).map (·.callback.isSome)

private theorem Changes.answers?_eq_some {after : Roster κ} (changes : roster.Changes scope after)
    (kept : ¬ scope.sets number) {answers : Bool} (has : roster.answers? number = some answers) :
    after.answers? number = some answers := by
  cases changes with
  | nothing same => rwa [answers?, actor?, same]
  | joined pushed unset undrawn =>
    rw [answers?, actor?_push pushed, if_neg]
    · exact has
    · rintro rfl
      rw [answers?, actor?_size] at has
      cases has
  | changed actor counts serves =>
    rw [answers?, actor?_modify]
    split
    · rename_i same
      obtain sets | serves := serves
      · exact absurd (same ▸ sets) kept
      · rw [Option.map_map, Function.comp_def]
        simp only [serves]
        exact has
    · exact has

theorem Moves.answers?_eq_some (moves : Moves scope start stop) (kept : ¬ scope.sets number)
    {answers : Bool} (has : start.1.answers? number = some answers) :
    stop.1.answers? number = some answers := by
  induction moves with
  | refl => exact has
  | tail _ move ih => exact move.changes.answers?_eq_some kept ih

end Roster

section

variable {may : Request → Prop} {start stop : Engine κ × List Claim}

/-- Only a session that is drawn from the engine's own counter changes it. -/
theorem Happens.lastSession_eq (happens : Happens scope may start stop)
    (kept : ¬ scope.draws none) : stop.1.lastSession = start.1.lastSession := by
  cases happens with
  | work works =>
    cases works with
    | steady steady => exact steady.counts.resolve_left kept
    | endLaunch actor outcome => cases outcome <;> rfl
    | _ => rfl
  | _ => rfl

theorem Course.lastSession_eq (course : Course scope may start stop) (kept : ¬ scope.draws none) :
    stop.1.lastSession = start.1.lastSession := by
  induction course with
  | refl => rfl
  | tail _ happens ih => exact (happens.lastSession_eq kept).trans ih

end

private theorem Engine.size_creating (engine : Engine κ) (module args : String)
    (behaviour : Instance κ) {handle : Handle}
    (issued : (engine.roster.directory.register engine.roster.actors.size).1 = some handle) :
    (engine.creating module args behaviour).roster.actors.size = engine.roster.actors.size + 1 := by
  have pushed : (engine.creating module args behaviour).roster.actors =
    (engine.roster.enroll module args behaviour engine.config.mailboxCapacity).2.actors := rfl
  rw [pushed, Roster.enroll_of_issued _ _ _ _ issued, Array.size_push]

/-! ### Who is at work -/

/-- The actor whose program a task runs or goes on with. -/
def Task.worker? : Task κ → Option Nat
  | .run actor _ _ => some actor
  | .resume actor _ _ => some actor
  | _ => none

variable {engine : Engine κ} {rest : List (Task κ)} {actor number : Nat} {task : Task κ}

private theorem Task.worker?_of_mem {top : Task κ} (member : task ∈ top :: rest)
    (works : task.worker? = some number)
    (own : ∀ number, top.worker? = some number → number = actor) :
    number = actor ∨ task ∈ rest := by
  obtain rfl | below := List.mem_cons.1 member
  · exact .inl (own number works)
  · exact .inr below

namespace Machine

private theorem worker?_of_endProgram {purpose : Purpose} {outcome : Except InitError Unit}
    (member : task ∈ (endProgram engine rest actor purpose outcome).tasks)
    (works : task.worker? = some number) : number = actor ∨ task ∈ rest := by
  cases purpose with
  | init => exact Task.worker?_of_mem member works nofun
  | callback session => exact .inr member

/-- A program is gone on with by its own actor. -/
theorem worker?_of_act {purpose : Purpose} {program : Program κ}
    (member : task ∈ (act engine rest actor purpose program).tasks)
    (works : task.worker? = some number) : number = actor ∨ task ∈ rest := by
  have own (number : Nat) (same : some actor = some number) : number = actor :=
    (Option.some.inj same).symm
  cases program with
  | finish outcome => exact worker?_of_endProgram member works
  | panic text =>
    cases purpose with
    | init => exact worker?_of_endProgram member works
    | callback session => exact .inr member
  | command command next =>
    cases command with
    | launch module args =>
      obtain same | waits := List.mem_cons.1 member
      · rw [same] at works
        cases works
      · exact Task.worker?_of_mem waits works own
    | _ => exact Task.worker?_of_mem member works own
  | _ => exact Task.worker?_of_mem member works own

/-- Who is at work after a step was at work before it, or comes to be by a launch, or is called. -/
theorem worker?_of_step {machine : Machine κ} (member : task ∈ machine.step.tasks)
    (works : task.worker? = some number) :
    (∃ before ∈ machine.tasks, before.worker? = some number) ∨
      (number = machine.engine.roster.actors.size ∧
        number < machine.step.engine.roster.actors.size) ∨
      ∃ found, machine.engine.roster.actor? number = some found ∧ found.callback.isSome = true := by
  obtain ⟨engine, tasks⟩ := machine
  -- a task that neither runs nor goes on with a program is put in front of what is left
  have below {top idle : Task κ} {rest : List (Task κ)} (same : tasks = top :: rest)
      (idles : idle.worker? = none) (member : task ∈ idle :: rest) :
      ∃ before ∈ tasks, before.worker? = some number := by
    obtain rfl | below := List.mem_cons.1 member
    · cases idles.symm.trans works
    · exact ⟨task, same ▸ List.mem_cons_of_mem top below, works⟩
  have own {actor : Nat} (number : Nat) (same : some actor = some number) : number = actor :=
    (Option.some.inj same).symm
  unfold step at member
  dsimp only at member
  split at member
  · rename_i module args rest
    have begins := engine.begins module args
    dsimp only [step]
    generalize engine.beginLaunch module args = begun at begins member
    cases begins with
    | refused cause => exact .inl (below rfl rfl member)
    | exhausted behaviour cause issued => exact .inl (below rfl rfl member)
    | created behaviour program issued =>
      obtain rfl | waits := Task.worker?_of_mem member works own
      · have grown := engine.size_creating module args behaviour issued
        exact .inr (.inl ⟨rfl, grown ▸ Nat.lt_succ_self _⟩)
      · exact .inl ⟨task, List.mem_cons_of_mem _ waits, works⟩
  · rename_i actor purpose program rest
    obtain rfl | waits := worker?_of_act member works
    · exact .inl ⟨_, List.mem_cons_self, rfl⟩
    · exact .inl ⟨task, List.mem_cons_of_mem _ waits, works⟩
  · rename_i result actor purpose next rest
    obtain rfl | waits := Task.worker?_of_mem member works own
    · exact .inl ⟨_, List.mem_cons_of_mem _ List.mem_cons_self, rfl⟩
    · exact .inl ⟨task, List.mem_cons_of_mem _ (List.mem_cons_of_mem _ waits), works⟩
  · exact .inl (below rfl rfl member)
  · rename_i box actor left invoked rest
    split at member
    · exact .inl (below rfl rfl member)
    · rename_i found seen
      split at member
      · exact .inl (below rfl rfl member)
      · unfold serve at member
        split at member
        · exact .inl (below rfl rfl member)
        · rename_i called
          obtain rfl | waits := Task.worker?_of_mem member works own
          · exact .inr (.inr ⟨found, seen, called ▸ rfl⟩)
          · exact .inl (below rfl rfl waits)
  · exact .inl ⟨task, member, works⟩

end Machine

end Mailroom
