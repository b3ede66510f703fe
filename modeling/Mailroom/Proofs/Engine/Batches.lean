import Mailroom.Proofs.Engine.Guests
import Mailroom.Proofs.Engine.Scheduling
import Mathlib.Algebra.BigOperators.Group.List.Basic
import Mathlib.Algebra.Ring.Nat
/-! # Batches in progress

A batch is what one actor receives each time a mailbox is serviced. Nobody is the guest of one actor
twice, so at most one batch is in progress for an actor, and once its first message has been taken
less is left of it than the configuration allows.
-/

namespace Mailroom

variable {κ : Type}

namespace Claim

variable {actor : Nat} {claims : List Claim}

/-- The messages that who has a claim may still pass on to an actor. -/
def owes (actor : Nat) : Claim → Nat
  | creation _ => 0
  | service _ guest left => if guest = actor then left else 0

/-- The messages that those who have claims may still pass on to an actor. -/
def owed (actor : Nat) (claims : List Claim) : Nat := (claims.map (owes actor)).sum

theorem owed_cons (actor : Nat) (claim : Claim) (claims : List Claim) :
    owed actor (claim :: claims) = claim.owes actor + owed actor claims := List.sum_cons

/-- One message is passed on. -/
theorem owed_pass (actor box guest left : Nat) (claims : List Claim) :
    owed actor (service box guest (left + 1) :: claims) =
      owed actor (service box guest left :: claims) + if guest = actor then 1 else 0 := by
  rw [owed_cons, owed_cons]
  dsimp only [owes]
  split <;> omega

private theorem owes_eq_zero {claim : Claim} (other : claim.guest ≠ actor) :
    claim.owes actor = 0 := by
  cases claim with
  | creation number => rfl
  | service box guest left => exact if_neg other

theorem owed_eq_zero (absent : actor ∉ claims.map guest) : owed actor claims = 0 := by
  induction claims with
  | nil => rfl
  | cons claim claims ih =>
    obtain ⟨other, absent⟩ := not_or.1 (List.mem_cons.not.1 absent)
    rw [owed_cons, owes_eq_zero (Ne.symm other), ih absent]

/-- If nobody has two guests, one claim says what is owed to an actor. -/
theorem owed_eq_owes (distinct : (claims.map guest).Nodup) {claim : Claim}
    (member : claim ∈ claims) : owed claim.guest claims = claim.owes claim.guest := by
  induction claims with
  | nil => exact nomatch member
  | cons first claims ih =>
    obtain ⟨absent, distinct⟩ := List.nodup_cons.1 distinct
    rw [owed_cons]
    obtain rfl | later := List.mem_cons.1 member
    · rw [owed_eq_zero absent, Nat.add_zero]
    · have other : first.guest ≠ claim.guest := by
        intro same
        rw [same] at absent
        exact absent (List.mem_map_of_mem later)
      rw [owes_eq_zero other, ih distinct later, Nat.zero_add]

end Claim

/-- The messages that the batches in progress may still pass on to an actor. -/
def Machine.owed (machine : Machine κ) (actor : Nat) : Nat := Claim.owed actor machine.state.2

variable {may : Request → Prop} {start stop : Engine κ × List Claim}

/-! ### One batch for one actor -/

/-- Nobody becomes the guest of an actor that has a guest. -/
theorem Happens.distinct (happens : Happens .any may start stop)
    (distinct : (start.2.map Claim.guest).Nodup)
    (counted : start.1.roster.Counted (start.2.map Claim.guest)) :
    (stop.2.map Claim.guest).Nodup := by
  cases happens with
  | work works =>
    cases works with
    | create module args behaviour issued =>
      refine List.nodup_cons.2 ⟨?_, distinct⟩
      intro member
      exact Nat.lt_irrefl _ (counted.hosts.registered member)
    | endLaunch actor outcome => exact (List.nodup_cons.1 distinct).2
    | endService box actor left => exact (List.nodup_cons.1 distinct).2
    | _ => exact distinct
  | take allowed taken live => exact List.nodup_singleton _
  | _ => exact distinct

theorem Course.distinct (course : Course .any may start stop)
    (distinct : (start.2.map Claim.guest).Nodup)
    (counted : start.1.roster.Counted (start.2.map Claim.guest)) (consistent : Consistent start) :
    (stop.2.map Claim.guest).Nodup := by
  induction course with
  | refl => exact distinct
  | tail before happens ih =>
    exact happens.distinct ih (Course.counted before counted consistent)

/-! ### Configurations -/

private theorem Config.pos_of_validate {config : Config} (valid : config.validate = .ok ()) :
    ∀ setting ∈ config.settings, 0 < setting.2 := by
  intro setting member
  unfold validate at valid
  split at valid
  · exact nomatch valid
  · rename_i none
    have nonzero := List.find?_eq_none.1 none setting member
    apply Nat.pos_of_ne_zero
    intro zero
    exact nonzero (decide_eq_true zero)

private theorem Engine.create_config {config : Config} {modules : List (String × Module κ)}
    {engine : Engine κ} (created : create config modules = .ok engine) :
    config.validate = .ok () ∧ engine.config = config := by
  unfold create at created
  split at created
  · exact nomatch created
  · rename_i valid
    obtain rfl := Except.ok.inj created
    exact ⟨valid, rfl⟩

private theorem Happens.config (happens : Happens .any may start stop) :
    stop.1.config = start.1.config := by
  cases happens with
  | work works =>
    cases works with
    | steady steady => exact steady.config
    | endLaunch actor outcome => cases outcome <;> rfl
    | _ => rfl
  | _ => rfl

theorem Course.config (course : Course .any may start stop) : stop.1.config = start.1.config := by
  induction course with
  | refl => rfl
  | tail _ happens ih => exact happens.config.trans ih

/-! ### What is left of a batch -/

variable {box actor left invoked : Nat}

/-- Only what services a mailbox is a batch. -/
theorem Task.service_of_mem_cons {task : Task κ} {rest : List (Task κ)}
    (member : .service box actor left invoked ∈ task :: rest) (other : task.service? = none) :
    .service box actor left invoked ∈ rest := by
  obtain rfl | below := List.mem_cons.1 member
  · exact nomatch other
  · exact below

namespace Machine

private theorem service_of_mem_state {machine : Machine κ}
    (claimed : .service box actor left ∈ machine.state.2) :
    ∃ invoked, .service box actor left invoked ∈ machine.tasks := by
  obtain ⟨task, member, claims⟩ := List.mem_filterMap.1 claimed
  cases task with
  | service number receiver more invoked =>
    obtain ⟨rfl, rfl, rfl⟩ := Claim.service.inj (Option.some.inj claims)
    exact ⟨invoked, member⟩
  | run number purpose program => cases purpose <;> exact nomatch claims
  | resume number purpose next => cases purpose <;> exact nomatch claims
  | _ => exact nomatch claims

/-- A program leaves alone the batches that are in progress below it. -/
theorem service_of_act {engine : Engine κ} {rest : List (Task κ)} {caller : Nat} {purpose : Purpose}
    {program : Program κ}
    (member : .service box actor left invoked ∈ (act engine rest caller purpose program).tasks) :
    .service box actor left invoked ∈ rest := by
  have ended (outcome : Except InitError Unit) {engine : Engine κ}
      (member : .service box actor left invoked ∈
        (endProgram engine rest caller purpose outcome).tasks) :
      .service box actor left invoked ∈ rest := by
    cases purpose with
    | init => exact Task.service_of_mem_cons member rfl
    | callback session => exact member
  cases program with
  | finish outcome => exact ended outcome member
  | panic text =>
    cases purpose with
    | init => exact ended (Engine.initPanicked text) member
    | callback session => exact ended (.ok ()) member
  | command command next =>
    cases command with
    | launch module args =>
      exact Task.service_of_mem_cons (Task.service_of_mem_cons member rfl) rfl
    | _ => exact Task.service_of_mem_cons member rfl
  | _ => exact Task.service_of_mem_cons member rfl

private theorem service_of_serve {engine : Engine κ} {rest : List (Task κ)} {found : Actor κ}
    {number receiver more before : Nat} {message : Message}
    (member : .service box actor left invoked ∈
      (serve engine rest found number receiver more before message).tasks) :
    .service box actor left invoked ∈ rest ∨ box = number ∧ actor = receiver ∧ left = more := by
  have passed (invoked' : Nat) (member : .service box actor left invoked ∈
      .service number receiver more invoked' :: rest) :
      .service box actor left invoked ∈ rest ∨ box = number ∧ actor = receiver ∧ left = more := by
    obtain same | below := List.mem_cons.1 member
    · obtain ⟨rfl, rfl, rfl, _⟩ := Task.service.inj same
      exact .inr ⟨rfl, rfl, rfl⟩
    · exact .inl below
  unfold serve at member
  split at member
  · exact passed before member
  · exact passed (before + 1) (Task.service_of_mem_cons member rfl)

/-- A step goes on with the batch on top, and leaves alone the others. -/
theorem service_of_step {machine : Machine κ}
    (member : .service box actor left invoked ∈ machine.step.tasks) :
    .service box actor left invoked ∈ machine.tasks.tail ∨
      ∃ before, .service box actor (left + 1) before ∈ machine.tasks := by
  obtain ⟨engine, tasks⟩ := machine
  unfold step at member
  dsimp only at member
  split at member
  · split at member
    · exact .inl (Task.service_of_mem_cons member rfl)
    · exact .inl (Task.service_of_mem_cons member rfl)
  · exact .inl (service_of_act member)
  · exact .inl (List.mem_cons_of_mem _ (Task.service_of_mem_cons member rfl))
  · exact .inl (Task.service_of_mem_cons member rfl)
  · split at member
    · exact .inl (Task.service_of_mem_cons member rfl)
    · split at member
      · exact .inl (Task.service_of_mem_cons member rfl)
      · obtain below | ⟨rfl, rfl, rfl⟩ := service_of_serve member
        · exact .inl below
        · exact .inr ⟨_, List.mem_cons_self⟩
  · rename_i complete ongoing
    cases tasks with
    | nil => exact nomatch member
    | cons task rest =>
      refine .inl (Task.service_of_mem_cons member ?_)
      cases task with
      | service number receiver more before =>
        cases more with
        | zero => exact (complete _ _ _ _ rfl).elim
        | succ more => exact (ongoing _ _ _ _ _ rfl).elim
      | _ => rfl

/-- A batch that has just begun is that of a live actor, and of any other less is left than the
configuration allows. -/
def Paced (machine : Machine κ) : Prop :=
  (∃ box actor, machine.tasks = [.service box actor machine.engine.config.messagesPerRun 0] ∧
    machine.engine.roster.isLive actor = true) ∨
  ∀ box actor left invoked, .service box actor left invoked ∈ machine.tasks →
    left < machine.engine.config.messagesPerRun

theorem Paced.step {machine : Machine κ} (paced : machine.Paced) : machine.step.Paced := by
  have course : Course .any (fun _ => True) machine.state machine.step.state := machine.course_step
  have config : machine.step.engine.config = machine.engine.config := course.config
  right
  intro box actor left invoked member
  rw [config]
  obtain below | ⟨before, ongoing⟩ := service_of_step member
  · obtain ⟨_, _, begun, _⟩ | paced := paced
    · rw [begun] at below
      exact nomatch below
    · exact paced box actor left invoked (List.mem_of_mem_tail below)
  · obtain ⟨_, _, begun, _⟩ | paced := paced
    · rw [begun] at ongoing
      obtain ⟨_, _, whole, _⟩ := Task.service.inj (List.mem_singleton.1 ongoing)
      omega
    · have more := paced box actor (left + 1) before ongoing
      omega

end Machine

namespace Reachable

variable {config : Config} {modules : List (String × Module κ)} {machine : Machine κ} {actor : Nat}

theorem config_eq (reached : Reachable config modules machine) :
    machine.engine.config = config := by
  obtain ⟨engine, created, course⟩ := reached.course
  exact (Course.config course).trans (Engine.create_config created).2

theorem messagesPerRun_pos (reached : Reachable config modules machine) :
    0 < config.messagesPerRun := by
  obtain ⟨engine, created, _⟩ := reached.course
  have positive := Config.pos_of_validate (Engine.create_config created).1
  exact positive ("max_messages_per_run", config.messagesPerRun) (by simp [Config.settings])

/-- Nobody is the guest of one actor twice. -/
theorem distinct (reached : Reachable config modules machine) :
    (machine.state.2.map Claim.guest).Nodup := by
  obtain ⟨engine, created, course⟩ := reached.course
  exact Course.distinct course List.nodup_nil (Engine.counted_create created)
    (Engine.consistent_create created)

private theorem paced (reached : Reachable config modules machine) : machine.Paced := by
  induction reached with
  | created created =>
    right
    intro box actor left invoked member
    exact nomatch member
  | performed rested performed =>
    right
    intro box actor left invoked member
    exact nomatch member
  | launching rested module args =>
    right
    intro box actor left invoked member
    exact nomatch Task.service_of_mem_cons member rfl
  | commanding rested caller module args =>
    right
    intro box actor left invoked member
    exact nomatch Task.service_of_mem_cons member rfl
  | @servicing engine box actor exchange rested taken live =>
    have live : ((engine.taking exchange).roster.hold actor).isLive actor = true := by
      refine (Roster.isLive_modify ?_ actor).trans (rested.sound.isLive_of_find? live)
      intro found
      rfl
    exact .inl ⟨box, actor, rfl, live⟩
  | stepped _ ih => exact ih.step

/-- Less is owed to an actor that was retired than a batch. -/
theorem owed_lt (reached : Reachable config modules machine)
    (retired : machine.engine.roster.isLive actor = false) :
    machine.owed actor < config.messagesPerRun := by
  by_cases guest : actor ∈ machine.state.2.map Claim.guest
  · obtain ⟨claim, member, rfl⟩ := List.mem_map.1 guest
    rw [Machine.owed, Claim.owed_eq_owes reached.distinct member]
    cases claim with
    | creation actor => exact reached.messagesPerRun_pos
    | service box actor left =>
      obtain ⟨invoked, member⟩ := Machine.service_of_mem_state member
      have left_lt : left < machine.engine.config.messagesPerRun := by
        obtain ⟨_, _, begun, live⟩ | paced := reached.paced
        · rw [begun] at member
          obtain ⟨_, rfl, _⟩ := Task.service.inj (List.mem_singleton.1 member)
          exact nomatch live.symm.trans retired
        · exact paced box actor left invoked member
      rw [reached.config_eq] at left_lt
      exact (if_pos rfl).trans_lt left_lt
  · rw [Machine.owed, Claim.owed_eq_zero guest]
    exact reached.messagesPerRun_pos

/-- Nothing is owed to an actor while its init is not done. -/
theorem owed_eq_zero_of_mem_inits (reached : Reachable config modules machine)
    (begun : actor ∈ machine.inits) : machine.owed actor = 0 := by
  obtain ⟨task, member, init⟩ := List.mem_filterMap.1 begun
  have claims : task.claim? = some (.creation actor) := by
    cases task with
    | run other purpose program =>
      cases purpose with
      | init => exact congrArg (·.map Claim.creation) init
      | callback session => exact nomatch init
    | resume other purpose next =>
      cases purpose with
      | init => exact congrArg (·.map Claim.creation) init
      | callback session => exact nomatch init
    | _ => exact nomatch init
  have member : .creation actor ∈ machine.state.2 := List.mem_filterMap.2 ⟨task, member, claims⟩
  exact Claim.owed_eq_owes reached.distinct member

end Reachable

end Mailroom
