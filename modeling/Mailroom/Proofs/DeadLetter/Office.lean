import Mailroom.DeadLetter
/-! # One stream of dead letters

An outlet and its copies record letters while subscribers come and go and take what is buffered.
Whatever is done in whatever order, the letters that were taken and then those that are still
buffered are the published ones in the order in which they were recorded, and a letter is lost to
those who subscribe only if it finds the buffer full.
-/

namespace Mailroom

namespace Outlet

variable (outlet : Outlet) (letter : DeadLetter)

theorem record_cases :
    outlet.observers = 0 ∧ outlet.record letter = (.unobserved, outlet) ∨
    outlet.observers ≠ 0 ∧ outlet.buffer.length < outlet.capacity ∧
      outlet.record letter = (.published, { outlet with buffer := outlet.buffer.push letter }) ∨
    outlet.observers ≠ 0 ∧ outlet.capacity ≤ outlet.buffer.length ∧
      outlet.record letter = (.full, outlet) := by
  unfold record
  split
  · rename_i nobody
    exact .inl ⟨nobody, rfl⟩
  · rename_i watched
    split
    · rename_i room
      exact .inr (.inl ⟨watched, room, rfl⟩)
    · rename_i full
      exact .inr (.inr ⟨watched, Nat.le_of_not_lt full, rfl⟩)

/-- With a subscriber it is up to the buffer alone whether a letter is published. -/
theorem published_iff (subscribed : 0 < outlet.subscribers.length) :
    (outlet.record letter).1 = .published ↔ outlet.buffer.length < outlet.capacity := by
  obtain ⟨nobody, same⟩ | ⟨_, room, same⟩ | ⟨_, full, same⟩ := outlet.record_cases letter
  · rw [observers] at nobody
    omega
  · rw [same]
    exact iff_of_true rfl room
  · rw [same]
    exact iff_of_false nofun (Nat.not_lt.2 full)

private theorem subscribe_frame (subscriber : Int) :
    (outlet.subscribe subscriber).capacity = outlet.capacity ∧
      (outlet.subscribe subscriber).buffer = outlet.buffer := by
  rw [subscribe]
  split
  · exact ⟨rfl, rfl⟩
  · exact ⟨rfl, rfl⟩

private theorem unsubscribe_frame (subscriber : Int) :
    ((outlet.unsubscribe? subscriber).getD outlet).capacity = outlet.capacity ∧
      ((outlet.unsubscribe? subscriber).getD outlet).buffer = outlet.buffer := by
  rw [unsubscribe?]
  split
  · exact ⟨rfl, rfl⟩
  · exact ⟨rfl, rfl⟩

end Outlet

/-- A letter that was recorded, with what the outlet did with it, and how many subscribers there were
and how many letters were in the buffer at that moment. -/
structure Recording where
  letter : DeadLetter
  passage : Passage
  subscribers : Nat
  buffered : Nat

/-- An outlet with all that was recorded by it and all that was taken from it, the oldest in front. -/
structure Office where
  outlet : Outlet
  recorded : List Recording
  /-- The letters that were taken, with who took them. -/
  received : List (Int × DeadLetter)

namespace Office

/-- What is done with an outlet or one of its copies, or by a subscriber. -/
inductive Act where
  | record (destination : String) (message : Message) (reason : DropReason)
  /-- Records messages one after another, all for the same reason and to the same handle. -/
  | recordAll (handle : Handle) (messages : List Message) (reason : DropReason)
  | subscribe (subscriber : Int)
  | unsubscribe (subscriber : Int)
  | copy
  | dropCopy
  /-- A subscriber takes as many letters as there are, up to a number. -/
  | receive (subscriber : Int) (count : Nat)

/-- The messages that an act records, each with its destination and the reason. -/
def Act.calls : Act → List (String × Message × DropReason)
  | .record destination message reason => [(destination, message, reason)]
  | .recordAll handle messages reason => messages.map fun message => (handle.text, message, reason)
  | _ => []

def ofCapacity (capacity : Nat) : Office :=
  { outlet := .ofCapacity capacity, recorded := [], received := [] }

def record (office : Office) (destination : String) (message : Message) (reason : DropReason) :
    Office :=
  let letter := DeadLetter.ofMessage destination message reason
  let (passage, outlet) := office.outlet.record letter
  { office with
    outlet
    recorded := office.recorded ++ [{
      letter
      passage
      subscribers := office.outlet.subscribers.length
      buffered := office.outlet.buffer.length }] }

/-- Does one act. What somebody would do who does not subscribe is not done. -/
def act (office : Office) : Act → Office
  | .record destination message reason => office.record destination message reason
  | .recordAll handle messages reason =>
    messages.foldl (fun office message => office.record handle.text message reason) office
  | .subscribe subscriber => { office with outlet := office.outlet.subscribe subscriber }
  | .unsubscribe subscriber =>
    { office with outlet := (office.outlet.unsubscribe? subscriber).getD office.outlet }
  | .copy => { office with outlet := office.outlet.copy }
  | .dropCopy => { office with outlet := office.outlet.dropCopy }
  | .receive subscriber count =>
    match office.outlet.receive? subscriber count with
    | none => office
    | some (letters, outlet) =>
      { office with outlet, received := office.received ++ letters.map (subscriber, ·) }

def run (office : Office) (acts : List Act) : Office := acts.foldl act office

/-- The letters that were published. -/
def published (office : Office) : List DeadLetter :=
  (office.recorded.filter (·.passage = .published)).map (·.letter)

/-- What is so of an office whatever was done. -/
structure Sound (capacity : Nat) (office : Office) : Prop where
  room : office.outlet.capacity = capacity
  order : office.received.map (·.2) ++ office.outlet.buffer.toList = office.published
  bound : office.outlet.buffer.length ≤ capacity
  decided {recording : Recording} (member : recording ∈ office.recorded)
    (subscribed : 0 < recording.subscribers) :
    recording.passage = .published ↔ recording.buffered < capacity

variable {capacity : Nat} {office after : Office}

private theorem sound_ofCapacity (capacity : Nat) : (ofCapacity capacity).Sound capacity where
  room := rfl
  order := rfl
  bound := Nat.zero_le _
  decided member := nomatch member

/-- Who subscribes, and how many copies there are, does not matter to what is so. -/
theorem Sound.frame (sound : office.Sound capacity)
    (room : after.outlet.capacity = office.outlet.capacity)
    (buffer : after.outlet.buffer = office.outlet.buffer)
    (recorded : after.recorded = office.recorded) (received : after.received = office.received) :
    after.Sound capacity where
  room := room.trans sound.room
  order := by rw [received, buffer, published, recorded, sound.order, published]
  bound := buffer ▸ sound.bound
  decided member := sound.decided (recorded ▸ member)

/-! ### Letters go in -/

section Record

variable (destination : String) (message : Message) (reason : DropReason)

theorem recorded_record : ∃ recording : Recording,
    (office.record destination message reason).recorded = office.recorded ++ [recording] ∧
    recording.letter = .ofMessage destination message reason ∧
    recording.passage = (office.outlet.record recording.letter).1 ∧
    recording.subscribers = office.outlet.subscribers.length ∧
    recording.buffered = office.outlet.buffer.length :=
  ⟨_, rfl, rfl, rfl, rfl, rfl⟩

private theorem letters_record :
    (office.record destination message reason).recorded.map (·.letter) =
      office.recorded.map (·.letter) ++ [.ofMessage destination message reason] := by
  rw [record, List.map_append]
  rfl

/-- A published letter is the newest in the buffer, and any other letter changes nothing there. -/
theorem Sound.record (sound : office.Sound capacity) :
    (office.record destination message reason).Sound capacity := by
  obtain ⟨recording, recorded, letter, passage, subscribers, buffered⟩ :=
    office.recorded_record destination message reason
  have outlet : (office.record destination message reason).outlet =
      (office.outlet.record recording.letter).2 := by rw [letter]; rfl
  have received : (office.record destination message reason).received = office.received := rfl
  have published : (office.record destination message reason).published =
      office.published ++ if recording.passage = .published then [recording.letter] else [] := by
    simp only [Office.published, recorded, List.filter_append, List.map_append, List.filter_cons,
      List.filter_nil]
    split <;> simp_all
  have decided {other : Recording}
      (member : other ∈ (office.record destination message reason).recorded)
      (subscribed : 0 < other.subscribers) :
      other.passage = .published ↔ other.buffered < capacity := by
    obtain old | new := List.mem_append.1 (recorded ▸ member)
    · exact sound.decided old subscribed
    · obtain rfl := List.mem_singleton.1 new
      rw [passage, buffered, ← sound.room]
      exact office.outlet.published_iff _ (subscribers ▸ subscribed)
  have unpublished (other : recording.passage ≠ .published)
      (same : (office.outlet.record recording.letter).2 = office.outlet) :
      (office.record destination message reason).Sound capacity :=
    { room := by rw [outlet, same, sound.room]
      order := by rw [received, outlet, same, published, if_neg other, List.append_nil, sound.order]
      bound := by rw [outlet, same]; exact sound.bound
      decided }
  obtain ⟨_, same⟩ | ⟨_, room, same⟩ | ⟨_, _, same⟩ :=
    office.outlet.record_cases recording.letter
  · exact unpublished (by rw [passage, same]; nofun) (by rw [same])
  · have pushed : (office.outlet.record recording.letter).2.buffer.toList =
        office.outlet.buffer.toList ++ [recording.letter] := by rw [same, Queue.toList_push]
    refine ⟨by rw [outlet, same]; exact sound.room, ?_, ?_, decided⟩
    · rw [received, outlet, pushed, published, if_pos (by rw [passage, same]), ← List.append_assoc,
        sound.order]
    · rw [outlet, ← Queue.length_toList, pushed, List.length_append, Queue.length_toList,
        ← sound.room]
      exact room
  · exact unpublished (by rw [passage, same]; nofun) (by rw [same])

end Record

/-! ### Subscribers come, go and take letters -/

/-- What is taken is what the buffer held longest. -/
theorem Sound.receive (sound : office.Sound capacity) (subscriber : Int) (count : Nat) :
    (office.act (.receive subscriber count)).Sound capacity := by
  rw [act, Outlet.receive?]
  split
  · exact sound
  · rename_i letters outlet taken
    split at taken
    · obtain ⟨rfl, rfl⟩ := Prod.mk.inj (Option.some.inj taken)
      obtain ⟨first, rest, _⟩ := Queue.popMany_spec count office.outlet.buffer
      refine ⟨sound.room, ?_, ?_, sound.decided⟩
      · rw [List.map_append, List.map_map, Function.comp_def, List.map_id', first, rest,
          List.append_assoc, List.take_append_drop, sound.order]
        rfl
      · rw [← Queue.length_toList, rest, List.length_drop, Queue.length_toList]
        exact Nat.le_trans (Nat.sub_le _ _) sound.bound
    · nomatch taken

/-! ### Whatever is done -/

theorem Sound.act (sound : office.Sound capacity) (act : Act) : (office.act act).Sound capacity := by
  cases act with
  | record destination message reason => exact sound.record destination message reason
  | recordAll handle messages reason =>
    rw [Office.act]
    exact List.foldlRecOn messages _ sound fun _ sound message _ =>
      sound.record handle.text message reason
  | subscribe subscriber =>
    obtain ⟨room, buffer⟩ := office.outlet.subscribe_frame subscriber
    exact sound.frame room buffer rfl rfl
  | unsubscribe subscriber =>
    obtain ⟨room, buffer⟩ := office.outlet.unsubscribe_frame subscriber
    exact sound.frame room buffer rfl rfl
  | copy => exact sound.frame rfl rfl rfl rfl
  | dropCopy => exact sound.frame rfl rfl rfl rfl
  | receive subscriber count => exact sound.receive subscriber count

theorem Sound.run (sound : office.Sound capacity) (acts : List Act) :
    (office.run acts).Sound capacity :=
  List.foldlRecOn acts _ sound fun _ sound act _ => sound.act act

/-- The letter of a message that was handed over together with its destination and a reason. -/
def letterOf (call : String × Message × DropReason) : DeadLetter where
  destination := call.1
  source := call.2.1.source
  session := call.2.1.session
  payload := call.2.1.payload
  reason := call.2.2

private theorem letters_act (act : Act) : (office.act act).recorded.map (·.letter) =
    office.recorded.map (·.letter) ++ act.calls.map letterOf := by
  have unrecorded (same : (office.act act).recorded = office.recorded) (silent : act.calls = []) :
      (office.act act).recorded.map (·.letter) =
        office.recorded.map (·.letter) ++ act.calls.map letterOf := by
    rw [same, silent, List.map_nil, List.append_nil]
  cases act with
  | record destination message reason => exact letters_record destination message reason
  | recordAll handle messages reason =>
    rw [Office.act, Act.calls]
    clear unrecorded
    induction messages generalizing office with
    | nil => simp
    | cons message messages ih =>
      rw [List.foldl_cons, ih, letters_record, List.append_assoc]
      rfl
  | subscribe => exact unrecorded rfl rfl
  | unsubscribe => exact unrecorded rfl rfl
  | copy => exact unrecorded rfl rfl
  | dropCopy => exact unrecorded rfl rfl
  | receive subscriber count =>
    refine unrecorded ?_ rfl
    rw [Office.act]
    split
    · rfl
    · rfl

private theorem letters_run (acts : List Act) : (office.run acts).recorded.map (·.letter) =
    office.recorded.map (·.letter) ++ (acts.flatMap Act.calls).map letterOf := by
  induction acts generalizing office with
  | nil => simp [run]
  | cons act acts ih =>
    rw [run, List.foldl_cons, ← run, ih, letters_act, List.append_assoc, ← List.map_append]
    rfl

/-- The letters taken so far, whoever took them, and then those in the buffer are the published
letters in the order in which they were recorded. No more than the capacity are in the buffer, a
letter that is recorded while somebody subscribes is published exactly if there is room, and the
letters recorded are those that the acts ask for, in their order. -/
theorem letters_in_order (capacity : Nat) (acts : List Act) :
    let office := (ofCapacity capacity).run acts
    office.received.map (·.2) ++ office.outlet.buffer.toList = office.published ∧
      office.outlet.buffer.length ≤ capacity ∧
      (∀ recording ∈ office.recorded, 0 < recording.subscribers →
        (recording.passage = .published ↔ recording.buffered < capacity)) ∧
      office.recorded.map (·.letter) = (acts.flatMap Act.calls).map letterOf := by
  intro office
  have sound : office.Sound capacity := (sound_ofCapacity capacity).run acts
  exact ⟨sound.order, sound.bound, fun _ member => sound.decided member, letters_run acts⟩

end Office

end Mailroom
