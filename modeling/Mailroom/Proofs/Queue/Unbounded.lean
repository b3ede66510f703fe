import Mailroom.Queue
import Mathlib.Algebra.Group.Nat.Defs
import Mathlib.Order.Bounds.Basic
/-! # Queues as lists without a bound

What a queue answers to a sequence of calls is what a list answers, to which items are appended and
from whose head they are taken. The capacity is not seen in the answers. It starts at no less than
one and doubles when an append finds the queue full, so in the end it is the first doubling with
room for the most items the queue has held.
-/

namespace Mailroom.Queue

variable {α : Type}

/-! ### Loops

An append goes on until an item is accepted, draining goes on until nothing is left, and growing
takes from one queue and appends to the other. Each of these loops ends, with what the function of
that name gives.
-/

/-- Appending until the item is accepted ends with `after`, once the queue has grown `growths`
times. -/
inductive Pushes (item : α) : Queue α → Nat → Queue α → Prop
  | accepted {queue after : Queue α} (pushed : queue.push? item = some after) :
      Pushes item queue 0 after
  | rejected {queue after : Queue α} {growths : Nat} (full : queue.push? item = none)
      (again : Pushes item queue.grow growths after) : Pushes item queue (growths + 1) after

/-- Taking until nothing is left gives `items` and ends with `after`. -/
inductive Drains : Queue α → List α → Queue α → Prop
  | done {queue : Queue α} (nothing : queue.pop? = none) : Drains queue [] queue
  | taken {queue rest after : Queue α} {item : α} {items : List α}
      (popped : queue.pop? = some (item, rest)) (next : Drains rest items after) :
      Drains queue (item :: items) after

/-- Taking from `queue` until nothing is left, and appending each item to `grown` without a
rejection, ends with `after`. -/
inductive Moves : Queue α → Queue α → Queue α → Prop
  | done {queue grown : Queue α} (nothing : queue.pop? = none) : Moves queue grown grown
  | moved {queue rest grown more after : Queue α} {item : α}
      (popped : queue.pop? = some (item, rest)) (pushed : grown.push? item = some more)
      (next : Moves rest more after) : Moves queue grown after

private theorem push_of_push? {queue after : Queue α} {item : α}
    (pushed : queue.push? item = some after) :
    queue.push item = after := by
  rw [push, pushed]

/-- An append ends, and after one growth if the queue is full. -/
theorem pushes_push (queue : Queue α) (item : α) :
    Pushes item queue (if queue.length < queue.capacity then 0 else 1) (queue.push item) := by
  by_cases room : queue.length < queue.capacity
  · obtain ⟨after, pushed, _⟩ := push?_of_lt room item
    rw [if_pos room, push_of_push? pushed]
    exact .accepted pushed
  · have full : queue.push? item = none :=
      push?_eq_none_iff.2 (Nat.le_antisymm queue.length_le (Nat.le_of_not_lt room))
    obtain ⟨after, pushed, _⟩ := push?_of_lt queue.length_grow_lt item
    have grown : queue.push item = after := by rw [push, full, pushed, Option.getD_some]
    rw [if_neg room, grown]
    exact .rejected full (.accepted pushed)

private theorem Pushes.unique {queue after other : Queue α} {item : α} {growths count : Nat}
    (pushes : Pushes item queue growths after) (again : Pushes item queue count other) :
    count = growths ∧ other = after := by
  induction pushes generalizing count other with
  | accepted pushed =>
    cases again with
    | accepted pushed' => exact ⟨rfl, Option.some.inj (pushed'.symm.trans pushed)⟩
    | rejected full _ => rw [full] at pushed; cases pushed
  | rejected full _ ih =>
    cases again with
    | accepted pushed => rw [full] at pushed; cases pushed
    | rejected _ next =>
      obtain ⟨rfl, rfl⟩ := ih next
      exact ⟨rfl, rfl⟩

theorem pushes_iff {queue after : Queue α} {item : α} {growths : Nat} :
    Pushes item queue growths after ↔
      growths = (if queue.length < queue.capacity then 0 else 1) ∧ after = queue.push item := by
  constructor
  · exact (queue.pushes_push item).unique
  · rintro ⟨rfl, rfl⟩
    exact queue.pushes_push item

/-- Draining ends, with every item taken. -/
theorem drains_popMany (count : Nat) {queue : Queue α} (length : queue.length = count) :
    Drains queue (popMany count queue).1 (popMany count queue).2 := by
  induction count generalizing queue with
  | zero =>
    refine .done (pop?_of_toList_eq_nil ?_)
    rw [← List.length_eq_zero_iff, length_toList, length]
  | succ count ih =>
    cases view : queue.toList with
    | nil => rw [← length_toList, view] at length; cases length
    | cons item items =>
      obtain ⟨rest, taken, tail, _⟩ := pop?_of_toList_eq_cons view
      have shorter : rest.length = count := by
        rw [← length_toList, view, List.length_cons] at length
        rw [← length_toList, tail]
        omega
      simp only [popMany, taken]
      exact .taken taken (ih shorter)

private theorem drains_drain (queue : Queue α) : Drains queue queue.drain.1 queue.drain.2 :=
  drains_popMany queue.length rfl

private theorem Drains.unique {queue after other : Queue α} {items list : List α}
    (drains : Drains queue items after) (again : Drains queue list other) :
    list = items ∧ other = after := by
  induction drains generalizing list other with
  | done nothing =>
    cases again with
    | done _ => exact ⟨rfl, rfl⟩
    | taken taken _ => rw [nothing] at taken; cases taken
  | taken taken _ ih =>
    cases again with
    | done nothing => rw [nothing] at taken; cases taken
    | taken taken' next =>
      obtain ⟨rfl, rfl⟩ := Prod.mk.inj (Option.some.inj (taken'.symm.trans taken))
      obtain ⟨rfl, rfl⟩ := ih next
      exact ⟨rfl, rfl⟩

theorem drains_iff {queue after : Queue α} {items : List α} :
    Drains queue items after ↔ items = queue.toList ∧ after = queue.drain.2 := by
  constructor
  · intro drains
    simpa using queue.drains_drain.unique drains
  · rintro ⟨rfl, rfl⟩
    simpa using queue.drains_drain

/-- No item is rejected by a queue that has room for all of them. -/
theorem Drains.moves {queue rest grown : Queue α} {items : List α}
    (drains : Drains queue items rest) (room : grown.length + items.length ≤ grown.capacity) :
    Moves queue grown (items.foldl (fun grown item => (grown.push? item).getD grown) grown) := by
  induction drains generalizing grown with
  | done nothing => exact .done nothing
  | taken taken _ ih =>
    rename_i item items _
    rw [List.length_cons] at room
    obtain ⟨more, pushed, view, size⟩ := push?_of_lt (by omega : grown.length < grown.capacity) item
    have longer : more.length = grown.length + 1 := by
      rw [← length_toList, view, List.length_append, length_toList, List.length_singleton]
    refine .moved taken pushed ?_
    rw [List.foldl_cons, pushed, Option.getD_some]
    exact ih (by omega)

/-- Growing ends with every item moved. -/
theorem moves_grow (queue : Queue α) :
    Moves queue (ofCapacity (2 * queue.capacity)) queue.grow := by
  refine queue.drains_drain.moves ?_
  have bound := queue.length_le
  rw [drain_fst, length_toList, ← length_toList, toList_ofCapacity, capacity_ofCapacity,
    List.length_nil]
  omega

/-! ### Calls -/

/-- A call on a queue. -/
inductive Call (α : Type) where
  | push (item : α)
  | pop
  | drain
  | length
  | isEmpty

/-- The answer to a call. -/
inductive Answer (α : Type) where
  | pushed
  | popped (item : Option α)
  | drained (items : List α)
  | length (count : Nat)
  | isEmpty (answer : Bool)

/-- A call on a queue: its answer, and the queue after it. -/
def answer (queue : Queue α) : Call α → Answer α × Queue α
  | .push item => (.pushed, queue.push item)
  | .pop =>
    match queue.pop? with
    | none => (.popped none, queue)
    | some (item, rest) => (.popped (some item), rest)
  | .drain => (.drained queue.drain.1, queue.drain.2)
  | .length => (.length queue.length, queue)
  | .isEmpty => (.isEmpty queue.isEmpty, queue)

/-- The same call on a list of items, oldest first. -/
def listed (items : List α) : Call α → Answer α × List α
  | .push item => (.pushed, items ++ [item])
  | .pop => (.popped items.head?, items.tail)
  | .drain => (.drained items, [])
  | .length => (.length items.length, items)
  | .isEmpty => (.isEmpty items.isEmpty, items)

/-- The answers to a sequence of calls, and what is left after the last. -/
def answers {σ : Type} (call : σ → Call α → Answer α × σ) (state : σ) :
    List (Call α) → List (Answer α) × σ
  | [] => ([], state)
  | first :: calls =>
    let (given, next) := call state first
    let (later, last) := answers call next calls
    (given :: later, last)

/-- The most items a list holds in the course of some calls. -/
def peak (items : List α) : List (Call α) → Nat
  | [] => items.length
  | call :: calls => max items.length (peak (listed items call).2 calls)

private theorem length_le_peak (items : List α) (calls : List (Call α)) :
    items.length ≤ peak items calls :=
  match calls with
  | [] => Nat.le_refl _
  | _ :: _ => Nat.le_max_left ..

/-- A queue answers a call as the list of its items does. -/
theorem answer_listed (queue : Queue α) (call : Call α) :
    (queue.answer call).1 = (listed queue.toList call).1 ∧
      (queue.answer call).2.toList = (listed queue.toList call).2 := by
  cases call with
  | push item => exact ⟨rfl, queue.toList_push item⟩
  | pop =>
    have spec := queue.pop?_spec
    unfold answer listed
    cases taken : queue.pop? with
    | none =>
      rw [taken] at spec
      simp only [spec]
      exact ⟨rfl, rfl⟩
    | some pair =>
      rw [taken] at spec
      simp only [spec.1]
      exact ⟨rfl, rfl⟩
  | drain => exact ⟨congrArg Answer.drained queue.drain_fst, queue.toList_drain_snd⟩
  | length => exact ⟨congrArg Answer.length queue.length_toList.symm, rfl⟩
  | isEmpty =>
    refine ⟨congrArg Answer.isEmpty ?_, rfl⟩
    rw [Bool.eq_iff_iff, isEmpty_iff, List.isEmpty_iff]

private theorem answers_listed (queue : Queue α) (calls : List (Call α)) :
    (answers answer queue calls).1 = (answers listed queue.toList calls).1 ∧
      (answers answer queue calls).2.toList = (answers listed queue.toList calls).2 := by
  induction calls generalizing queue with
  | nil => exact ⟨rfl, rfl⟩
  | cons call calls ih =>
    obtain ⟨given, items⟩ := queue.answer_listed call
    obtain ⟨later, last⟩ := ih (queue.answer call).2
    simp only [answers]
    rw [later, last, given, items]
    exact ⟨rfl, rfl⟩

/-! ### Capacities -/

/-- A capacity that is the first doubling of `base` with room for `most` items. -/
def Fits (base most capacity : Nat) : Prop :=
  ∃ doublings, capacity = base * 2 ^ doublings ∧
    IsLeast {count | most ≤ base * 2 ^ count} doublings

variable {base most more capacity : Nat}

private theorem fits_base (base : Nat) : Fits base 0 base :=
  ⟨0, by rw [Nat.pow_zero, Nat.mul_one], Nat.zero_le _, fun _ _ => Nat.zero_le _⟩

private theorem Fits.le (fits : Fits base most capacity) : most ≤ capacity := by
  obtain ⟨_, rfl, room, _⟩ := fits
  exact room

/-- While there is room, the capacity stays. -/
theorem Fits.of_le (fits : Fits base most capacity) (grows : most ≤ more) (room : more ≤ capacity) :
    Fits base more capacity := by
  obtain ⟨doublings, rfl, _, least⟩ := fits
  exact ⟨doublings, rfl, room, fun _ other => least (Nat.le_trans grows other)⟩

/-- One more than there is room for takes one doubling more. -/
theorem Fits.double (fits : Fits base capacity capacity) (positive : 0 < capacity) :
    Fits base (capacity + 1) (2 * capacity) := by
  obtain ⟨doublings, rfl, _, _⟩ := fits
  have doubled : 2 * (base * 2 ^ doublings) = base * 2 ^ (doublings + 1) := by
    rw [Nat.pow_succ, Nat.mul_comm, Nat.mul_assoc]
  refine ⟨doublings + 1, doubled, ?_, fun count room => ?_⟩
  · change base * 2 ^ doublings + 1 ≤ base * 2 ^ (doublings + 1)
    omega
  · have larger : base * 2 ^ doublings < base * 2 ^ count := room
    have powers : 2 ^ doublings < 2 ^ count := Nat.lt_of_mul_lt_mul_left larger
    exact (Nat.pow_lt_pow_iff_right (by decide)).1 powers

/-- A call leaves a capacity that fits the most items so far. -/
theorem fits_answer {queue : Queue α} (fits : Fits base most queue.capacity)
    (held : queue.length ≤ most) (call : Call α) :
    Fits base (max most (queue.answer call).2.length) (queue.answer call).2.capacity := by
  have bound := fits.le
  -- A queue of the same capacity that is no longer leaves the most items as they are.
  have stays (after : Queue α) (shorter : after.length ≤ queue.length)
      (size : after.capacity = queue.capacity) :
      Fits base (max most after.length) after.capacity := by
    rw [size, Nat.max_eq_left (Nat.le_trans shorter held)]
    exact fits
  cases call with
  | push item =>
    have longer : (queue.push item).length = queue.length + 1 := by
      rw [← length_toList, toList_push, List.length_append, length_toList, List.length_singleton]
    change Fits base (max most (queue.push item).length) (queue.push item).capacity
    rw [capacity_push, longer]
    split
    · exact fits.of_le (Nat.le_max_left ..) (by omega)
    · have full : most = queue.capacity := by omega
      have same : max most (queue.length + 1) = queue.capacity + 1 := by
        have := queue.length_le
        omega
      subst full
      rw [same]
      exact fits.double queue.capacity_pos
  | pop =>
    have spec := queue.pop?_spec
    unfold answer
    cases taken : queue.pop? with
    | none => exact stays queue (Nat.le_refl _) rfl
    | some pair =>
      rw [taken] at spec
      refine stays pair.2 ?_ spec.2
      rw [← length_toList, ← length_toList, spec.1, List.length_cons]
      exact Nat.le_succ _
  | drain =>
    refine stays queue.drain.2 ?_ queue.capacity_drain_snd
    rw [← length_toList, toList_drain_snd]
    exact Nat.zero_le _
  | length => exact stays queue (Nat.le_refl _) rfl
  | isEmpty => exact stays queue (Nat.le_refl _) rfl

private theorem fits_answers {queue : Queue α} (fits : Fits base most queue.capacity)
    (held : queue.length ≤ most) (calls : List (Call α)) :
    Fits base (max most (peak queue.toList calls)) (answers answer queue calls).2.capacity := by
  induction calls generalizing queue most with
  | nil =>
    rw [peak, length_toList, Nat.max_eq_left held]
    exact fits
  | cons call calls ih =>
    have later := ih (fits_answer fits held call) (Nat.le_max_right ..)
    have first := length_le_peak (queue.answer call).2.toList calls
    rw [length_toList] at first
    rw [Nat.max_assoc, Nat.max_eq_right first] at later
    rw [peak, ← (queue.answer_listed call).2, length_toList, ← Nat.max_assoc, Nat.max_eq_left held]
    exact later

/-- From any capacity and after any calls, a queue has given the answers of a list and holds what
the list holds. Its capacity is the first doubling of the initial one that has room for the most
items it has held. The next append ends after at most one growth, growing moves every item without
a rejection, and draining gives every item and leaves none. -/
theorem behaves_as_list (capacity : Nat) (calls : List (Call α)) :
    (answers answer (ofCapacity capacity) calls).1 = (answers listed [] calls).1 ∧
      ∃ queue, (answers answer (ofCapacity capacity) calls).2 = queue ∧
        queue.toList = (answers listed [] calls).2 ∧
        (∃ doublings, queue.capacity = max capacity 1 * 2 ^ doublings ∧
          IsLeast {count | peak [] calls ≤ max capacity 1 * 2 ^ count} doublings) ∧
        (∀ item growths after, Pushes item queue growths after ↔
          growths = (if queue.length < queue.capacity then 0 else 1) ∧
            after = queue.push item) ∧
        Moves queue (ofCapacity (2 * queue.capacity)) queue.grow ∧
        queue.grow.toList = queue.toList ∧ queue.grow.capacity = 2 * queue.capacity ∧
        (∀ items after, Drains queue items after ↔
          items = queue.toList ∧ after = queue.drain.2) ∧
        queue.drain.2.toList = [] := by
  obtain ⟨given, items⟩ := answers_listed (ofCapacity capacity) calls
  have start : Fits (max capacity 1) 0 (ofCapacity capacity : Queue α).capacity := fits_base _
  have fits := fits_answers start (Nat.le_refl 0) calls
  rw [Nat.zero_max] at fits
  refine ⟨given, _, rfl, items, fits, fun _ _ _ => pushes_iff, moves_grow _, toList_grow _,
    capacity_grow _, fun _ _ => drains_iff, toList_drain_snd _⟩

/-- Nine items after two that are gone take two doublings of four. -/
example :
    (answers answer (ofCapacity 4)
      ([.push 100, .push 101, .pop, .pop] ++ (List.range 9).map .push)).2.capacity = 16 := by
  decide

end Mailroom.Queue
