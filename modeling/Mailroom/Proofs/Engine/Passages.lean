import Mailroom.Proofs.Engine.FailedLaunch
/-! # Passages of the work in progress

What is on top of the stack is worked off without a look at what is below it. So a program gets from
one state to another whatever waits for it and however it will end, unless a launch that it asks for
goes on forever.
-/

namespace Mailroom

variable {κ : Type}

namespace Machine

variable {machine middle after : Machine κ} {count more : Nat}

/-- The same work with more tasks below it. -/
def atop (machine : Machine κ) (below : List (Task κ)) : Machine κ :=
  { machine with tasks := machine.tasks ++ below }

private theorem isSettled_atop (busy : machine.isSettled = false) (below : List (Task κ)) :
    (machine.atop below).isSettled = false := by
  obtain ⟨engine, tasks⟩ := machine
  unfold isSettled at busy
  dsimp only at busy
  split at busy <;> first | rfl | exact nomatch busy

private theorem act_atop (engine : Engine κ) (rest below : List (Task κ)) (actor : Nat)
    (purpose : Purpose) (program : Program κ) :
    act engine (rest ++ below) actor purpose program =
      (act engine rest actor purpose program).atop below := by
  cases program with
  | finish outcome => cases purpose <;> rfl
  | panic text => cases purpose <;> rfl
  | command command next => cases command <;> rfl
  | _ => rfl

private theorem serve_atop (engine : Engine κ) (rest below : List (Task κ)) (found : Actor κ)
    (box actor left invoked : Nat) (message : Message) :
    serve engine (rest ++ below) found box actor left invoked message =
      (serve engine rest found box actor left invoked message).atop below := by
  unfold serve
  split <;> rfl

/-- Nobody looks below what is on top. -/
theorem step_atop (busy : machine.isSettled = false) (below : List (Task κ)) :
    (machine.atop below).step = machine.step.atop below := by
  obtain ⟨engine, tasks⟩ := machine
  unfold isSettled at busy
  dsimp only at busy
  split at busy
  · rename_i module args rest
    simp only [step, atop, List.cons_append]
    rcases engine.beginLaunch module args with ⟨_ | _, _⟩ <;> rfl
  · exact act_atop ..
  · rfl
  · rename_i box actor left invoked rest
    cases left with
    | zero => rfl
    | succ left =>
      simp only [step, atop, List.cons_append]
      cases engine.roster.actor? actor with
      | none => rfl
      | some found =>
        rcases engine.take box with ⟨_ | message, left⟩
        · rfl
        · exact serve_atop ..
  · cases busy

/-! ### Passages -/

/-- Some steps lead to a state, and up to it there is work to do. -/
inductive Passes : Nat → Machine κ → Machine κ → Prop where
  | refl (machine : Machine κ) : Passes 0 machine machine
  | step {count : Nat} {machine after : Machine κ} (busy : machine.isSettled = false)
    (passes : Passes count machine.step after) : Passes (count + 1) machine after

theorem Passes.single (busy : machine.isSettled = false) : Passes 1 machine machine.step :=
  .step busy (.refl _)

theorem Passes.trans (first : Passes count machine middle) (second : Passes more middle after) :
    Passes (count + more) machine after := by
  induction first with
  | refl => rwa [Nat.zero_add]
  | step busy _ ih =>
    rw [Nat.succ_add]
    exact .step busy (ih second)

private theorem Passes.atop (passes : Passes count machine after) (below : List (Task κ)) :
    Passes count (machine.atop below) (after.atop below) := by
  induction passes with
  | refl => exact .refl _
  | step busy _ ih =>
    refine .step (isSettled_atop busy below) ?_
    rwa [step_atop busy]

theorem Passes.iterate_eq (passes : Passes count machine after) :
    Machine.step^[count] machine = after := by
  induction passes with
  | refl => rfl
  | step _ _ ih => exact ih

/-- Fuel that lasts for a passage does what it can after it. -/
theorem Passes.settle?_eq (passes : Passes count machine after) (fuel : Nat) :
    settle? fuel machine = if count ≤ fuel then settle? (fuel - count) after else none := by
  induction passes generalizing fuel with
  | refl => exact (if_pos (Nat.zero_le fuel)).symm
  | step busy _ ih =>
    cases fuel with
    | zero => rfl
    | succ fuel =>
      rw [settle?, if_neg (Bool.not_eq_true _ ▸ busy), ih, Nat.add_sub_add_right]
      simp only [Nat.add_le_add_iff_right]

/-- What is done to its end is done by a passage. -/
theorem passes_of_settle? {fuel : Nat} (settled : settle? fuel machine = some after) :
    ∃ count, Passes count machine after ∧ after.isSettled = true := by
  induction fuel generalizing machine with
  | zero => cases settled
  | succ fuel ih =>
    rw [settle?] at settled
    split at settled
    · rename_i done
      obtain rfl := Option.some.inj settled
      exact ⟨0, .refl machine, done⟩
    · rename_i busy
      obtain ⟨count, passes, done⟩ := ih settled
      exact ⟨count + 1, .step (Bool.eq_false_iff.2 busy) passes, done⟩

/-- There is always work to do. -/
def Endless (machine : Machine κ) : Prop := ∀ count, (step^[count] machine).isSettled = false

theorem Endless.step (endless : machine.Endless) : machine.step.Endless :=
  fun count => endless (count + 1)

private theorem Endless.atop (endless : machine.Endless) (below : List (Task κ)) :
    (machine.atop below).Endless := by
  have steps (count : Nat) :
      Machine.step^[count] (machine.atop below) = (Machine.step^[count] machine).atop below := by
    induction count generalizing machine with
    | zero => rfl
    | succ count ih =>
      have busy : machine.isSettled = false := endless 0
      rw [Function.iterate_succ_apply, step_atop busy, ih endless.step, Function.iterate_succ_apply]
  intro count
  rw [steps]
  exact isSettled_atop (endless count) below

theorem Endless.settle? (endless : machine.Endless) (fuel : Nat) :
    settle? fuel machine = none := by
  induction fuel generalizing machine with
  | zero => rfl
  | succ fuel ih =>
    rw [Machine.settle?, if_neg (Bool.not_eq_true _ ▸ endless 0)]
    exact ih endless.step

private theorem settles_or_endless (machine : Machine κ) :
    (∃ count after, Passes count machine after ∧ after.isSettled = true) ∨ machine.Endless := by
  by_cases settles : ∃ count, (step^[count] machine).isSettled = true
  · left
    obtain ⟨count, settled⟩ := settles
    induction count generalizing machine with
    | zero => exact ⟨0, machine, .refl machine, settled⟩
    | succ count ih =>
      cases now : machine.isSettled with
      | true => exact ⟨0, machine, .refl machine, now⟩
      | false =>
        obtain ⟨steps, after, passes, settled⟩ := ih machine.step settled
        exact ⟨steps + 1, after, .step now passes, settled⟩
  · right
    exact fun count => Bool.not_eq_true _ ▸ not_exists.1 settles count

/-! ### Launches -/

/-- Inits that wait for launches they asked for. -/
def Inits (tasks : List (Task κ)) : Prop :=
  ∀ task ∈ tasks, ∃ actor next, task = .resume actor .init next

/-- A launch is in progress, and nothing is below it but inits that wait. -/
inductive Launching : List (Task κ) → Prop where
  | launch {rest : List (Task κ)} (module args : String) (inits : Inits rest) :
    Launching (.launch module args :: rest)
  | run {rest : List (Task κ)} (actor : Nat) (program : Program κ) (inits : Inits rest) :
    Launching (.run actor .init program :: rest)
  | launched {rest : List (Task κ)} (result : Except LaunchError Handle) (inits : Inits rest) :
    Launching (.launched result :: rest)

private theorem launching_act (engine : Engine κ) {rest : List (Task κ)} (inits : Inits rest)
    (actor : Nat) (program : Program κ) :
    Launching (act engine rest actor .init program).tasks := by
  cases program with
  | finish outcome => exact .launched _ inits
  | panic text => exact .launched _ inits
  | command command next =>
    cases command with
    | launch module args => exact .launch _ _ (List.forall_mem_cons.2 ⟨⟨actor, next, rfl⟩, inits⟩)
    | _ => exact .run _ _ inits
  | _ => exact .run _ _ inits

theorem Launching.step {machine : Machine κ} (launching : Launching machine.tasks) :
    Launching machine.step.tasks := by
  obtain ⟨engine, tasks⟩ := machine
  cases launching with
  | launch module args inits =>
    dsimp only [Machine.step]
    rcases engine.beginLaunch module args with ⟨_ | ⟨actor, program⟩, _⟩
    · exact .launched _ inits
    · exact .run _ _ inits
  | run actor program inits => exact launching_act engine inits actor program
  | @launched rest result inits =>
    cases rest with
    | nil => exact .launched _ inits
    | cons task rest =>
      obtain ⟨⟨actor, next, rfl⟩, below⟩ := List.forall_mem_cons.1 inits
      exact .run _ _ below

private theorem Launching.passes (launching : Launching machine.tasks)
    (passes : Passes count machine after) : Launching after.tasks := by
  induction passes with
  | refl => exact launching
  | step _ _ ih => exact ih launching.step

private theorem Launching.exists_result (launching : Launching machine.tasks)
    (settled : machine.isSettled = true) : ∃ result, machine.tasks = [.launched result] := by
  obtain ⟨engine, tasks⟩ := machine
  cases launching with
  | @launched rest result inits =>
    cases rest with
    | nil => exact ⟨result, rfl⟩
    | cons task rest =>
      obtain ⟨⟨actor, next, rfl⟩, _⟩ := List.forall_mem_cons.1 inits
      exact nomatch settled
  | _ => exact nomatch settled

/-- A launch comes to its end or goes on forever. -/
theorem launches_or_endless (engine : Engine κ) (module args : String) :
    (∃ count after result, Passes count { engine, tasks := [.launch module args] }
      { engine := after, tasks := [.launched result] }) ∨
    Endless { engine, tasks := [.launch module args] } := by
  refine (settles_or_endless _).imp_left fun ⟨count, ⟨after, tasks⟩, passes, settled⟩ => ?_
  have begun : Launching [Task.launch (κ := κ) module args] := .launch _ _ (by simp [Inits])
  obtain ⟨result, rfl⟩ := (begun.passes passes).exists_result settled
  exact ⟨count, after, result, passes⟩

end Machine

/-! ### Programs -/

namespace Program

/-- A program with other ends. -/
def mapEnd (change : Program κ → Program κ) : Program κ → Program κ
  | finish outcome => change (finish outcome)
  | panic text => change (panic text)
  | send destination session payload next =>
    send destination session payload fun result => (next result).mapEnd change
  | command asked next => command asked fun reply => (next reply).mapEnd change
  | setCallback key next => setCallback key fun result => (next result).mapEnd change
  | become key next => become key (next.mapEnd change)
  | report told next => report told (next.mapEnd change)

@[simp] theorem mapEnd_id (program : Program κ) : program.mapEnd id = program := by
  induction program with
  | finish outcome => rfl
  | panic text => rfl
  | send destination session payload next ih => simp only [mapEnd, ih]
  | command asked next ih => simp only [mapEnd, ih]
  | setCallback key next ih => simp only [mapEnd, ih]
  | become key next ih => simp only [mapEnd, ih]
  | report told next ih => simp only [mapEnd, ih]

/-- Whether a program is at its end. -/
def isEnd : Program κ → Bool
  | finish _ => true
  | panic _ => true
  | _ => false

end Program

namespace Machine

/-- A state is passed from which a launch goes on forever. -/
def Hangs (machine : Machine κ) : Prop :=
  ∃ count engine module args below,
    Passes count machine { engine, tasks := .launch module args :: below } ∧
      Endless { engine, tasks := [.launch module args] }

private theorem Hangs.of_passes {machine middle : Machine κ} {count : Nat}
    (passes : Passes count machine middle) (hangs : middle.Hangs) : machine.Hangs := by
  obtain ⟨more, engine, module, args, below, later, endless⟩ := hangs
  exact ⟨count + more, engine, module, args, below, passes.trans later, endless⟩

theorem Hangs.settle? {machine : Machine κ} (hangs : machine.Hangs) (fuel : Nat) :
    settle? fuel machine = none := by
  obtain ⟨count, engine, module, args, below, passes, endless⟩ := hangs
  have forever := (endless.atop below).settle? (fuel - count)
  rw [passes.settle?_eq]
  exact (congrArg (if count ≤ fuel then · else none) forever).trans (ite_self none)

/-- A program gets from one state to another, whatever is put at its ends and whatever is below. -/
def Runs (count : Nat) (actor : Nat) (purpose : Purpose) (before after : Engine κ × Program κ) :
    Prop :=
  ∀ change rest, Passes count
    { engine := before.1, tasks := .run actor purpose (before.2.mapEnd change) :: rest }
    { engine := after.1, tasks := .run actor purpose (after.2.mapEnd change) :: rest }

variable {engine after : Engine κ} {actor count : Nat} {purpose : Purpose} {program next : Program κ}

/-- A program gets to one of its ends, or a launch that it asks for goes on forever. -/
def RunsOrHangs (actor : Nat) (purpose : Purpose) (engine : Engine κ) (program : Program κ) : Prop :=
  (∃ count after last, last.isEnd = true ∧
    Runs count actor purpose (engine, program) (after, last)) ∨
  ∀ change rest, Hangs { engine, tasks := .run actor purpose (program.mapEnd change) :: rest }

private theorem RunsOrHangs.of_runs
    (runs : Runs count actor purpose (engine, program) (after, next))
    (later : RunsOrHangs actor purpose after next) : RunsOrHangs actor purpose engine program := by
  obtain ⟨more, final, last, ends, goes⟩ | hangs := later
  · exact .inl ⟨count + more, final, last, ends,
      fun change rest => (runs change rest).trans (goes change rest)⟩
  · exact .inr fun change rest => .of_passes (runs change rest) (hangs change rest)

/-- A program that asks for a launch goes on when that has come to its end. -/
theorem runs_launch {module args : String} {next : Except CommandError Reply → Program κ}
    {result : Except LaunchError Handle}
    (passes : Passes count
      { engine := engine.note (.commanded (engine.roster.handleOf actor)
          (Command.launch module args).keyword), tasks := [.launch module args] }
      { engine := after, tasks := [.launched result] }) :
    Runs (1 + count + 1) actor purpose (engine, .command (.launch module args) next)
      (after, next ((result.map Reply.handle).mapError CommandError.launch)) := by
  intro change rest
  let waiting : Task κ := .resume actor purpose fun reply => (next reply).mapEnd change
  have asks : Passes 1 ⟨engine, .run actor purpose
      ((Program.command (.launch module args) next).mapEnd change) :: rest⟩ _ := .single rfl
  exact (asks.trans (passes.atop (waiting :: rest))).trans (.single rfl)

/-- Every program does. -/
theorem runsOrHangs (actor : Nat) (purpose : Purpose) (engine : Engine κ) (program : Program κ) :
    RunsOrHangs actor purpose engine program := by
  induction program generalizing engine with
  | finish outcome => exact .inl ⟨0, engine, .finish outcome, rfl, fun _ _ => .refl _⟩
  | panic text => exact .inl ⟨0, engine, .panic text, rfl, fun _ _ => .refl _⟩
  | send destination session payload next ih =>
    exact .of_runs (fun _ _ => .single rfl) (ih _ (engine.sendAs actor destination session payload).2)
  | command asked next ih =>
    let noted := engine.note (.commanded (engine.roster.handleOf actor) asked.keyword)
    cases asked with
    | launch module args =>
      obtain ⟨count, after, result, passes⟩ | endless := launches_or_endless noted module args
      · exact .of_runs (runs_launch passes) (ih _ after)
      · exact .inr fun change rest =>
          ⟨1, noted, module, args, _, .single rfl, endless⟩
    | _ => exact .of_runs (fun _ _ => .single rfl) (ih _ _)
  | setCallback key next ih => exact .of_runs (fun _ _ => .single rfl) (ih _ _)
  | become key next ih => exact .of_runs (fun _ _ => .single rfl) (ih _)
  | report told next ih => exact .of_runs (fun _ _ => .single rfl) (ih _)

end Machine

end Mailroom
