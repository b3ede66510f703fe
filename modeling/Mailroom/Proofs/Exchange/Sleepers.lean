import Mailroom.RunQueue
import Mathlib.Data.List.Induction
import Mathlib.Data.List.Nodup
/-! # No wakeup is lost

Whoever finds the run queue empty goes to sleep, and each mailbox that is scheduled wakes the one
who has slept longest. Mailboxes may be taken between a wakeup and the moment when the sleeper
looks. Still no more mailboxes wait than sleepers have been woken for them since any one who still
sleeps lay down.
-/

namespace Mailroom.RunQueue

/-- What is done with a run queue by those who schedule, those who service and those who wait. -/
inductive Act where
  | schedule (box : Nat)
  /-- Takes the mailbox at the head, if there is one. -/
  | next
  /-- Begins to wait, and looks for the first time. -/
  | wait (waiter : Int)
  | look (waiter : Int)
  | wakeAll
deriving DecidableEq, Repr

def act (queue : RunQueue) : Act → RunQueue
  | .schedule box => queue.schedule box
  | .next => (queue.next?.map (·.2)).getD queue
  | .wait waiter => (queue.wait waiter).2
  | .look waiter => ((queue.look? waiter).map (·.2)).getD queue
  | .wakeAll => queue.wakeAll

def run (queue : RunQueue) (acts : List Act) : RunQueue := acts.foldl act queue

/-- How many sleepers an act wakes by scheduling a mailbox. -/
def rouses (queue : RunQueue) : Act → Nat
  | .schedule box =>
    (queue.schedule box).wakeups.woken.length - queue.wakeups.woken.length
  | _ => 0

/-- How many sleepers are woken by the mailboxes that acts schedule. -/
def roused (queue : RunQueue) : List Act → Nat
  | [] => 0
  | act :: acts => queue.rouses act + (queue.act act).roused acts

variable {queue : RunQueue} {waiter : Int} {count : Nat}

private theorem roused_append (queue : RunQueue) (acts : List Act) (act : Act) :
    queue.roused (acts ++ [act]) = queue.roused acts + (queue.run acts).rouses act := by
  induction acts generalizing queue with
  | nil => exact Nat.add_comm ..
  | cons first acts ih =>
    rw [List.cons_append, roused, ih, roused, Nat.add_assoc]
    rfl

/-! ### Sleepers -/

private theorem asleep_notify (wakeups : Wakeups) :
    wakeups.notify.asleep = wakeups.asleep.tail := by
  unfold Wakeups.notify
  split <;> rename_i asleep <;> simp [asleep]

/-- A notice is kept only if nobody sleeps. -/
theorem kept_notify {wakeups : Wakeups} (sleeps : waiter ∈ wakeups.notify.asleep) :
    wakeups.notify.kept = wakeups.kept := by
  unfold Wakeups.notify at sleeps ⊢
  split at sleeps
  · rename_i nobody
    rw [nobody] at sleeps
    cases sleeps
  · rfl

/-- Who gives up a wait wakes at most one other. -/
theorem giveUp_cases (wakeups : Wakeups) (other : Int) :
    let rest : Wakeups :=
      { wakeups with
        asleep := wakeups.asleep.erase other
        woken := wakeups.woken.filter (·.1 ≠ other) }
    wakeups.giveUp other = rest ∨ wakeups.giveUp other = rest.notify := by
  unfold Wakeups.giveUp
  dsimp only
  split
  · exact .inr rfl
  · exact .inl rfl

private theorem asleep_giveUp (wakeups : Wakeups) (other : Int) :
    (wakeups.giveUp other).asleep.Sublist (wakeups.asleep.erase other) := by
  obtain same | same := giveUp_cases wakeups other
  · rw [same]
  · rw [same, asleep_notify]
    exact List.tail_sublist _

private theorem kept_giveUp {wakeups : Wakeups} {other : Int}
    (sleeps : waiter ∈ (wakeups.giveUp other).asleep) :
    (wakeups.giveUp other).kept = wakeups.kept := by
  obtain same | same := giveUp_cases wakeups other
  · rw [same]
  · rw [same] at sleeps ⊢
    exact kept_notify sleeps

/-- What comes of beginning to wait: a mailbox is there, or a notice was kept, or neither. -/
inductive Begins (queue : RunQueue) (waiter : Int) : Waiting × RunQueue → Prop where
  | found (filled : queue.isEmpty = false) :
    Begins queue waiter (.ready, { queue with wakeups := queue.wakeups.giveUp waiter })
  | noticed (empty : queue.isEmpty = true) :
    Begins queue waiter
      (.ready, { queue with wakeups := { queue.wakeups.giveUp waiter with kept := false } })
  | slept (empty : queue.isEmpty = true) (unkept : (queue.wakeups.giveUp waiter).kept = false) :
    Begins queue waiter (.pending, { queue with
      wakeups := { queue.wakeups.giveUp waiter with
        asleep := (queue.wakeups.giveUp waiter).asleep ++ [waiter] } })

private theorem begins (queue : RunQueue) (waiter : Int) :
    queue.Begins waiter (queue.wait waiter) := by
  unfold wait
  dsimp only
  split
  · rename_i empty
    cases kept : (queue.wakeups.giveUp waiter).kept with
    | false =>
      rw [Wakeups.sleep, if_neg (Bool.eq_false_iff.1 kept)]
      exact .slept empty kept
    | true =>
      rw [Wakeups.sleep, if_pos kept]
      exact .noticed empty
  · rename_i filled
    exact .found (Bool.not_eq_true _ ▸ filled)

/-- Who sleeps while another one begins to wait slept before, and no notice is kept because of
it. -/
theorem wait_of_ne {other : Int} (apart : waiter ≠ other)
    (sleeps : waiter ∈ (queue.wait other).2.wakeups.asleep) :
    waiter ∈ queue.wakeups.asleep ∧ (queue.wait other).2.entries = queue.entries ∧
      (queue.wakeups.kept = false → (queue.wait other).2.wakeups.kept = false) := by
  -- giving up an earlier wait lets others sleep on, and keeps a notice only if nobody does
  have given (slept : waiter ∈ (queue.wakeups.giveUp other).asleep) :
      waiter ∈ queue.wakeups.asleep ∧
        (queue.wakeups.kept = false → (queue.wakeups.giveUp other).kept = false) := by
    refine ⟨List.mem_of_mem_erase ((asleep_giveUp _ other).subset slept), fun unkept => ?_⟩
    rw [kept_giveUp slept, unkept]
  have begins := queue.begins other
  generalize queue.wait other = begun at begins sleeps
  cases begins with
  | found filled =>
    obtain ⟨slept, unkept⟩ := given sleeps
    exact ⟨slept, rfl, unkept⟩
  | noticed empty => exact ⟨(given sleeps).1, rfl, fun _ => rfl⟩
  | slept empty unkept =>
    obtain slept | new := List.mem_append.1 sleeps
    · exact ⟨(given slept).1, rfl, fun _ => unkept⟩
    · exact absurd (List.mem_singleton.1 new) apart

/-- Who sleeps after beginning to wait found neither a mailbox nor a notice. -/
theorem wait_self (single : queue.wakeups.asleep.Nodup)
    (sleeps : waiter ∈ (queue.wait waiter).2.wakeups.asleep) :
    (queue.wait waiter).1 = .pending ∧ (queue.wait waiter).2.isEmpty = true ∧
      (queue.wait waiter).2.wakeups.kept = false := by
  have awake : waiter ∉ (queue.wakeups.giveUp waiter).asleep := fun slept =>
    single.not_mem_erase ((asleep_giveUp _ waiter).subset slept)
  have begins := queue.begins waiter
  generalize queue.wait waiter = begun at begins sleeps
  cases begins with
  | found filled => exact absurd sleeps awake
  | noticed empty => exact absurd sleeps awake
  | slept empty unkept => exact ⟨rfl, empty, unkept⟩

private theorem asleep_next (queue : RunQueue) : (queue.act .next).wakeups = queue.wakeups := by
  unfold act next?
  cases queue.entries.pop? <;> rfl

/-- Looking wakes nobody. -/
theorem look_frame (queue : RunQueue) (waiter : Int) :
    (queue.act (.look waiter)).entries = queue.entries ∧
      (queue.act (.look waiter)).wakeups.asleep = queue.wakeups.asleep ∧
      (queue.act (.look waiter)).wakeups.kept = queue.wakeups.kept := by
  unfold act look? Wakeups.look?
  dsimp only
  split
  · exact ⟨rfl, rfl, rfl⟩
  · split <;> exact ⟨rfl, rfl, rfl⟩

/-- Nobody sleeps twice at a time. -/
theorem nodup_asleep (single : queue.wakeups.asleep.Nodup) (act : Act) :
    (queue.act act).wakeups.asleep.Nodup := by
  cases act with
  | schedule box =>
    rw [RunQueue.act, schedule, asleep_notify]
    exact single.tail
  | next => rwa [asleep_next]
  | wait other =>
    have given : (queue.wakeups.giveUp other).asleep.Nodup :=
      (single.erase other).sublist (asleep_giveUp _ other)
    have awake : other ∉ (queue.wakeups.giveUp other).asleep := fun slept =>
      single.not_mem_erase ((asleep_giveUp _ other).subset slept)
    rw [RunQueue.act]
    have begins := queue.begins other
    generalize queue.wait other = begun at begins
    cases begins with
    | found filled => exact given
    | noticed empty => exact given
    | slept empty unkept => exact given.append (List.nodup_singleton other) (by simpa using awake)
  | look other => rwa [(queue.look_frame other).2.1]
  | wakeAll => exact List.nodup_nil

theorem nodup_asleep_run (single : queue.wakeups.asleep.Nodup) (acts : List Act) :
    (queue.run acts).wakeups.asleep.Nodup :=
  List.foldlRecOn (motive := fun queue : RunQueue => queue.wakeups.asleep.Nodup) acts _ single
    fun _ single act _ => nodup_asleep single act

/-! ### Mailboxes and sleepers -/

private theorem length_next (queue : RunQueue) : (queue.act .next).length ≤ queue.length := by
  unfold act next?
  have spec := queue.entries.pop?_spec
  cases popped : queue.entries.pop? with
  | none => exact Nat.le_refl _
  | some head =>
    simp only [popped] at spec
    have view := congrArg List.length spec.1
    rw [List.length_cons, Queue.length_toList, Queue.length_toList] at view
    exact Nat.le_of_succ_le (Nat.le_of_eq view.symm)

/-- One act leaves who sleeps through it without a kept notice, and brings at most as many mailboxes
as it wakes other sleepers. -/
theorem act_of_asleep {act : Act} (through : act ≠ .wait waiter)
    (sleeps : waiter ∈ (queue.act act).wakeups.asleep) :
    waiter ∈ queue.wakeups.asleep ∧
      (queue.wakeups.kept = false → (queue.act act).wakeups.kept = false) ∧
      (queue.act act).length ≤ queue.length + queue.rouses act := by
  cases act with
  | schedule box =>
    cases asleep : queue.wakeups.asleep with
    | nil =>
      rw [RunQueue.act, schedule, asleep_notify, asleep] at sleeps
      cases sleeps
    | cons first rest =>
      rw [RunQueue.act, schedule, asleep_notify, asleep] at sleeps
      refine ⟨List.mem_cons_of_mem first sleeps, ?_, ?_⟩
      · simp only [RunQueue.act, schedule, Wakeups.notify, asleep]
        exact id
      · have view := congrArg List.length (queue.entries.toList_push box)
        rw [List.length_append, Queue.length_toList, Queue.length_toList] at view
        simp only [RunQueue.act, rouses, schedule, Wakeups.notify, asleep, List.length_append,
          length, view, List.length_singleton]
        omega
  | next =>
    exact ⟨asleep_next queue ▸ sleeps, (asleep_next queue).symm ▸ id, queue.length_next⟩
  | wait other =>
    obtain ⟨slept, entries, unkept⟩ :=
      wait_of_ne (fun same => through (congrArg Act.wait same.symm)) sleeps
    exact ⟨slept, unkept, Nat.le_of_eq (congrArg Queue.length entries)⟩
  | look other =>
    obtain ⟨entries, asleep, kept⟩ := queue.look_frame other
    exact ⟨asleep ▸ sleeps, kept.symm ▸ id, Nat.le_of_eq (congrArg Queue.length entries)⟩
  | wakeAll => cases sleeps

/-- Whoever sleeps through a number of acts does so without a kept notice, and as many mailboxes
have come meanwhile as other sleepers were woken for them, or fewer. -/
theorem run_of_asleep {acts : List Act} (through : .wait waiter ∉ acts)
    (sleeps : waiter ∈ (queue.run acts).wakeups.asleep) (unkept : queue.wakeups.kept = false) :
    (queue.run acts).wakeups.kept = false ∧
      (queue.run acts).length ≤ queue.length + queue.roused acts := by
  induction acts using List.reverseRecOn with
  | nil => exact ⟨unkept, Nat.le_refl _⟩
  | append_singleton acts act ih =>
    rw [List.mem_append, not_or] at through
    have last : act ≠ .wait waiter := fun same => through.2 (same ▸ List.mem_singleton_self _)
    have after : queue.run (acts ++ [act]) = (queue.run acts).act act := List.foldl_concat ..
    rw [after] at sleeps ⊢
    obtain ⟨slept, kept, length⟩ := act_of_asleep last sleeps
    obtain ⟨unkept, bound⟩ := ih through.1 slept
    rw [roused_append]
    exact ⟨kept unkept, by omega⟩

/-- Whoever sleeps began to wait once and has not begun again since. -/
theorem exists_wait_of_asleep {acts : List Act} (nobody : queue.wakeups.asleep = [])
    (sleeps : waiter ∈ (queue.run acts).wakeups.asleep) :
    ∃ earlier later, acts = earlier ++ .wait waiter :: later ∧ .wait waiter ∉ later ∧
      waiter ∈ ((queue.run earlier).wait waiter).2.wakeups.asleep := by
  induction acts using List.reverseRecOn with
  | nil =>
    rw [run, List.foldl_nil, nobody] at sleeps
    cases sleeps
  | append_singleton acts act ih =>
    have after : queue.run (acts ++ [act]) = (queue.run acts).act act := List.foldl_concat ..
    rw [after] at sleeps
    by_cases begins : act = .wait waiter
    · subst begins
      exact ⟨acts, [], rfl, nofun, sleeps⟩
    · obtain ⟨earlier, later, rfl, once, slept⟩ := ih (act_of_asleep begins sleeps).1
      refine ⟨earlier, later ++ [act], by simp, ?_, slept⟩
      rw [List.mem_append, List.mem_singleton, not_or]
      exact ⟨once, Ne.symm begins⟩

/-- While anybody sleeps no notice is kept, and there are at most as many mailboxes in the run queue
as sleepers were woken by scheduling since that one went to sleep. So if there is a mailbox,
somebody has been woken for it. -/
theorem no_wakeup_is_lost (room : Nat) (acts : List Act) (waiter : Int)
    (sleeps : waiter ∈ ((ofRoom room).run acts).wakeups.asleep) :
    ∃ earlier later, acts = earlier ++ .wait waiter :: later ∧ .wait waiter ∉ later ∧
      (((ofRoom room).run earlier).wait waiter).1 = .pending ∧
      ((ofRoom room).run acts).wakeups.kept = false ∧
      ((ofRoom room).run acts).length ≤
        (((ofRoom room).run earlier).act (.wait waiter)).roused later ∧
      (((ofRoom room).run acts).isEmpty = false →
        0 < (((ofRoom room).run earlier).act (.wait waiter)).roused later) := by
  obtain ⟨earlier, later, rfl, once, slept⟩ := exists_wait_of_asleep rfl sleeps
  have single : ((ofRoom room).run earlier).wakeups.asleep.Nodup :=
    nodup_asleep_run List.nodup_nil earlier
  obtain ⟨pending, empty, unkept⟩ := wait_self single slept
  have continued : (ofRoom room).run (earlier ++ .wait waiter :: later) =
      (((ofRoom room).run earlier).act (.wait waiter)).run later := by
    rw [run, List.foldl_append, List.foldl_cons]
    rfl
  rw [continued] at sleeps ⊢
  obtain ⟨kept, bound⟩ := run_of_asleep once sleeps unkept
  have begun : (((ofRoom room).run earlier).act (.wait waiter)).length = 0 :=
    of_decide_eq_true empty
  rw [begun, Nat.zero_add] at bound
  refine ⟨earlier, later, rfl, once, pending, kept, bound, fun filled => ?_⟩
  have present := of_decide_eq_false filled
  rw [← length] at present
  omega

/-- Two wait, and the first of them is woken for the mailbox that is scheduled. -/
theorem second_sleeps_on :
    (2 : Int) ∈ ((ofRoom 4).run [.wait 1, .wait 2, .schedule 7]).wakeups.asleep ∧
      ∃ earlier later, [Act.wait 1, .wait 2, .schedule 7] = earlier ++ .wait 2 :: later ∧
        .wait 2 ∉ later ∧
        (((ofRoom 4).run earlier).wait 2).1 = .pending ∧
        ((ofRoom 4).run [.wait 1, .wait 2, .schedule 7]).wakeups.kept = false ∧
        ((ofRoom 4).run [.wait 1, .wait 2, .schedule 7]).length ≤
          (((ofRoom 4).run earlier).act (.wait 2)).roused later ∧
        (((ofRoom 4).run [.wait 1, .wait 2, .schedule 7]).isEmpty = false →
          0 < (((ofRoom 4).run earlier).act (.wait 2)).roused later) :=
  ⟨by decide, no_wakeup_is_lost 4 [.wait 1, .wait 2, .schedule 7] 2 (by decide)⟩

end Mailroom.RunQueue
