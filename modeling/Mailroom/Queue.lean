/-! # Queues

A first-in, first-out queue with a capacity. An append to a full queue is rejected by `push?` and
makes `push` double the capacity first, moving the items over head first. Everything about a queue
is said through `toList`, oldest item first, and `capacity`.
-/

namespace Mailroom

/-- A queue with room for `capacity` items. -/
structure Queue (α : Type) where
  capacity : Nat
  /-- The oldest items, in order. -/
  front : List α
  /-- The newest items, in reverse. -/
  back : List α
  length : Nat
  capacity_pos : 0 < capacity
  length_eq : front.length + back.length = length
  length_le : length ≤ capacity

namespace Queue

variable {α : Type}

/-- An empty queue with room for `capacity` items, and for at least one. -/
def ofCapacity (capacity : Nat) : Queue α where
  capacity := max capacity 1
  front := []
  back := []
  length := 0
  capacity_pos := by omega
  length_eq := rfl
  length_le := by omega

instance : Inhabited (Queue α) := ⟨ofCapacity 1⟩

def toList (queue : Queue α) : List α := queue.front ++ queue.back.reverse

def isEmpty (queue : Queue α) : Bool := queue.length = 0

/-- Appends an item, or rejects it if the queue is full. -/
def push? (queue : Queue α) (item : α) : Option (Queue α) :=
  if room : queue.length < queue.capacity then
    some { queue with
      back := item :: queue.back
      length := queue.length + 1
      length_eq := by have := queue.length_eq; simp only [List.length_cons]; omega
      length_le := room }
  else none

/-- Moves the newest items to the front once the front is used up. -/
def turn (queue : Queue α) : Queue α :=
  match queue with
  | ⟨capacity, [], back, length, positive, same, bound⟩ =>
    ⟨capacity, back.reverse, [], length, positive, by simpa using same, bound⟩
  | other => other

/-- Takes the first item of the front. -/
def popFront? : Queue α → Option (α × Queue α)
  | ⟨_, [], _, _, _, _, _⟩ => none
  | ⟨capacity, item :: front, back, length, positive, same, bound⟩ =>
    some (item, ⟨capacity, front, back, length - 1, positive,
      by simp only [List.length_cons] at same; omega, by omega⟩)

/-- Takes the oldest item. -/
def pop? (queue : Queue α) : Option (α × Queue α) := queue.turn.popFront?

/-- Takes up to `count` items, oldest first. -/
def popMany : Nat → Queue α → List α × Queue α
  | 0, queue => ([], queue)
  | count + 1, queue =>
    match queue.pop? with
    | none => ([], queue)
    | some (item, rest) =>
      let (items, left) := popMany count rest
      (item :: items, left)

/-- Takes every item, oldest first. -/
def drain (queue : Queue α) : List α × Queue α := queue.popMany queue.length

/-- Moves the items, head first, into a queue of twice the capacity. -/
def grow (queue : Queue α) : Queue α :=
  queue.drain.1.foldl (fun grown item => (grown.push? item).getD grown)
    (ofCapacity (2 * queue.capacity))

/-- Appends an item, after one growth if the queue is full. -/
def push (queue : Queue α) (item : α) : Queue α :=
  match queue.push? item with
  | some appended => appended
  | none => (queue.grow.push? item).getD queue.grow

/-! ### The view of each operation -/

@[simp] theorem toList_ofCapacity (capacity : Nat) : (ofCapacity capacity : Queue α).toList = [] :=
  rfl

@[simp] theorem capacity_ofCapacity (capacity : Nat) :
    (ofCapacity capacity : Queue α).capacity = max capacity 1 := rfl

@[simp] theorem length_toList (queue : Queue α) : queue.toList.length = queue.length := by
  simp [toList, queue.length_eq]

theorem isEmpty_iff (queue : Queue α) : queue.isEmpty = true ↔ queue.toList = [] := by
  rw [← List.length_eq_zero_iff, length_toList]
  simp [isEmpty]

@[simp] theorem toList_turn (queue : Queue α) : queue.turn.toList = queue.toList := by
  rcases queue with ⟨capacity, _ | ⟨item, front⟩, back, length, positive, same, bound⟩ <;>
    simp [turn, toList]

@[simp] theorem capacity_turn (queue : Queue α) : queue.turn.capacity = queue.capacity := by
  rcases queue with ⟨capacity, _ | ⟨item, front⟩, back, length, positive, same, bound⟩ <;> rfl

theorem push?_of_lt {queue : Queue α} (room : queue.length < queue.capacity) (item : α) :
    ∃ appended, queue.push? item = some appended ∧
      appended.toList = queue.toList ++ [item] ∧ appended.capacity = queue.capacity := by
  simp only [push?, dif_pos room]
  exact ⟨_, rfl, by simp [toList], rfl⟩

theorem push?_eq_none_iff {queue : Queue α} {item : α} :
    queue.push? item = none ↔ queue.length = queue.capacity := by
  have := queue.length_le
  simp only [push?]
  split
  · simp only [reduceCtorEq, false_iff]; omega
  · simp only [true_iff]; omega

theorem back_turn_of_front_eq_nil {queue : Queue α} (used : queue.turn.front = []) :
    queue.turn.back = [] := by
  rcases queue with ⟨capacity, _ | ⟨item, front⟩, back, length, positive, same, bound⟩
  · rfl
  · simp [turn] at used

/-- A queue gives out its oldest item and keeps the others in order. -/
theorem pop?_spec (queue : Queue α) :
    match queue.pop? with
    | none => queue.toList = []
    | some (item, rest) => queue.toList = item :: rest.toList ∧ rest.capacity = queue.capacity := by
  have view := toList_turn queue
  have size := capacity_turn queue
  have used : queue.turn.front = [] → queue.turn.back = [] := back_turn_of_front_eq_nil
  rw [pop?]
  generalize queue.turn = turned at *
  rw [← view, ← size]
  rcases turned with ⟨capacity, _ | ⟨item, front⟩, back, length, positive, same, bound⟩
  · simpa [popFront?, toList] using used rfl
  · simp [popFront?, toList]

theorem pop?_of_toList_eq_cons {queue : Queue α} {item : α} {items : List α}
    (view : queue.toList = item :: items) :
    ∃ rest, queue.pop? = some (item, rest) ∧ rest.toList = items ∧
      rest.capacity = queue.capacity := by
  have spec := queue.pop?_spec
  cases found : queue.pop? with
  | none => simp_all
  | some pair =>
    obtain ⟨first, rest⟩ := pair
    simp only [found, view, List.cons.injEq] at spec
    exact ⟨rest, by rw [spec.1.1], spec.1.2.symm, spec.2⟩

theorem pop?_of_toList_eq_nil {queue : Queue α} (view : queue.toList = []) :
    queue.pop? = none := by
  have spec := queue.pop?_spec
  cases found : queue.pop? with
  | none => rfl
  | some pair => simp_all

theorem popMany_spec (count : Nat) (queue : Queue α) :
    (popMany count queue).1 = queue.toList.take count ∧
      (popMany count queue).2.toList = queue.toList.drop count ∧
      (popMany count queue).2.capacity = queue.capacity := by
  induction count generalizing queue with
  | zero => simp [popMany]
  | succ count ih =>
    cases view : queue.toList with
    | nil => simp [popMany, pop?_of_toList_eq_nil view, view]
    | cons item items =>
      obtain ⟨rest, found, tail, size⟩ := pop?_of_toList_eq_cons view
      simp [popMany, found, ih rest, tail, size]

@[simp] theorem drain_fst (queue : Queue α) : queue.drain.1 = queue.toList := by
  simp [drain, popMany_spec, ← length_toList]

@[simp] theorem toList_drain_snd (queue : Queue α) : queue.drain.2.toList = [] := by
  simp [drain, popMany_spec, ← length_toList]

@[simp] theorem capacity_drain_snd (queue : Queue α) : queue.drain.2.capacity = queue.capacity := by
  simp [drain, popMany_spec]

private theorem foldl_push? (items : List α) (queue : Queue α)
    (room : queue.length + items.length ≤ queue.capacity) :
    (items.foldl (fun grown item => (grown.push? item).getD grown) queue).toList =
        queue.toList ++ items ∧
      (items.foldl (fun grown item => (grown.push? item).getD grown) queue).capacity =
        queue.capacity := by
  induction items generalizing queue with
  | nil => simp
  | cons item items ih =>
    simp only [List.length_cons] at room
    have fits : queue.length < queue.capacity := by omega
    obtain ⟨appended, found, view, size⟩ := push?_of_lt fits item
    have grown := length_toList appended
    rw [view, List.length_append, length_toList, List.length_singleton] at grown
    simp only [List.foldl_cons, found, Option.getD_some]
    simpa [view, size] using ih appended (by omega)

@[simp] theorem toList_grow (queue : Queue α) : queue.grow.toList = queue.toList := by
  have bound := queue.length_le
  have positive := queue.capacity_pos
  have moved := foldl_push? queue.toList (ofCapacity (2 * queue.capacity))
    (by simp [ofCapacity]; omega)
  simpa [grow] using moved.1

@[simp] theorem capacity_grow (queue : Queue α) : queue.grow.capacity = 2 * queue.capacity := by
  have bound := queue.length_le
  have positive := queue.capacity_pos
  have moved := foldl_push? queue.toList (ofCapacity (2 * queue.capacity))
    (by simp [ofCapacity]; omega)
  simp only [grow, drain_fst, moved.2, capacity_ofCapacity]
  omega

/-- Growth happens at most once: a queue that has just grown has room. -/
theorem length_grow_lt (queue : Queue α) : queue.grow.length < queue.grow.capacity := by
  have bound := queue.length_le
  have positive := queue.capacity_pos
  rw [← length_toList, toList_grow, length_toList, capacity_grow]
  omega

@[simp] theorem toList_push (queue : Queue α) (item : α) :
    (queue.push item).toList = queue.toList ++ [item] := by
  by_cases room : queue.length < queue.capacity
  · obtain ⟨appended, found, view, _⟩ := push?_of_lt room item
    simp [push, found, view]
  · have full : queue.push? item = none := push?_eq_none_iff.2
      (Nat.le_antisymm queue.length_le (Nat.le_of_not_lt room))
    obtain ⟨appended, found, view, _⟩ := push?_of_lt queue.length_grow_lt item
    simp [push, full, found, view]

theorem capacity_push (queue : Queue α) (item : α) :
    (queue.push item).capacity =
      if queue.length < queue.capacity then queue.capacity else 2 * queue.capacity := by
  by_cases room : queue.length < queue.capacity
  · obtain ⟨appended, found, _, size⟩ := push?_of_lt room item
    simp [push, found, size, room]
  · have full : queue.push? item = none := push?_eq_none_iff.2
      (Nat.le_antisymm queue.length_le (Nat.le_of_not_lt room))
    obtain ⟨appended, found, _, size⟩ := push?_of_lt queue.length_grow_lt item
    simp [push, full, found, size, room]

end Queue

end Mailroom
