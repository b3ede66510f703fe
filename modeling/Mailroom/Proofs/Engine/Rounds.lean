import Mailroom.Proofs.Engine.Appends
import Mailroom.Proofs.Engine.Scheduling
/-! # Mailboxes take turns

A mailbox that waits behind so many others is taken by the dispatch after as many, whatever else
goes on meanwhile, and between two services of one mailbox all that waited at the first one are
serviced.
-/

namespace Mailroom

variable {κ : Type}

/-! ### Rounds -/

/-- The mailboxes that wait to be serviced, the next one in front. -/
def Machine.waiting (machine : Machine κ) : List Nat := machine.engine.roster.exchange.waiting

/-- A part of a run before shutdown, with what its dispatches take from the run queue, the first one
in front: a mailbox, or nothing if none waits. -/
def Rounds (machine : Machine κ) (served : List (Option Nat)) (last : Machine κ) : Prop :=
  ∃ draws, Legs (· ≠ .shutdown) machine draws served last

variable {engine : Engine κ} {machine middle last : Machine κ} {served more : List (Option Nat)}

theorem Rounds.trans (first : Rounds machine served middle) (second : Rounds middle more last) :
    Rounds machine (served ++ more) last := by
  obtain ⟨_, first⟩ := first
  obtain ⟨_, second⟩ := second
  exact ⟨_, first.trans second⟩

private theorem Rounds.consistent (rounds : Rounds machine served last)
    (consistent : Consistent machine.state) : Consistent last.state := by
  obtain ⟨_, legs⟩ := rounds
  exact legs.consistent consistent

/-- Either nothing is taken from the run queue, or a dispatch takes its head. -/
theorem Leg.takes {draws : List Draw} (leg : Leg (· ≠ .shutdown) machine draws served last)
    (consistent : Consistent machine.state) :
    (served = [] ∧ machine.waiting <+: last.waiting) ∨
      (served = [machine.waiting.head?] ∧ machine.waiting.tail <+: last.waiting) := by
  have waits (happens : Happens .resting (· ≠ .shutdown) machine.state last.state) :
      machine.waiting <+: last.waiting := happens.appends consistent
  cases leg with
  | performed lasting direct performed =>
    have does := Engine.does_perform direct performed
    exact .inl ⟨rfl, waits (does.happens lasting lasting fun _ _ => trivial)⟩
  | ticked engine => exact .inl ⟨rfl, waits (.steady engine.steady_advance)⟩
  | blocked idle =>
    rw [Machine.waiting, Exchange.next?_eq_none_iff.1 idle]
    exact .inr ⟨rfl, List.prefix_refl _⟩
  | @dropped engine box exchange taken gone =>
    let noted := (engine.taking exchange).roster.note
      (.orphaned (exchange.handleOf box) (exchange.release box).1.length)
    rw [Machine.waiting, (Exchange.next?_eq_some taken).1]
    exact .inr ⟨rfl, noted.appends_settleBy Mailbox.release .retired box (exchange.handleOf box)⟩
  | servicing taken live =>
    rw [Machine.waiting, (Exchange.next?_eq_some taken).1]
    exact .inr ⟨rfl, List.prefix_refl _⟩
  | launching module args => exact .inl ⟨rfl, List.prefix_refl _⟩
  | commanding caller module args => exact .inl ⟨rfl, List.prefix_refl _⟩
  | stepped =>
    exact .inl ⟨rfl, waits (machine.happens_step (fun _ _ => trivial) fun _ _ => trivial)⟩
  | launched result => exact .inl ⟨rfl, List.prefix_refl _⟩
  | serviced invoked => exact .inl ⟨rfl, List.prefix_refl _⟩

private theorem getElem?_of_prefix {front whole : List Nat} {position number : Nat}
    (starts : front <+: whole) (found : front[position]? = some number) :
    whole[position]? = some number := by
  obtain ⟨rest, rfl⟩ := starts
  rw [List.getElem?_append_left (List.getElem?_eq_some_iff.1 found).1]
  exact found

/-- A mailbox that waits behind so many others is taken by the dispatch after as many, and until
then each dispatch brings it one place nearer to the head. -/
theorem Rounds.takes {position box : Nat} (rounds : Rounds machine served last)
    (consistent : Consistent machine.state) (waits : machine.waiting[position]? = some box) :
    (position < served.length → served[position]? = some (some box)) ∧
      (served.length ≤ position → last.waiting[position - served.length]? = some box) := by
  obtain ⟨_, legs⟩ := rounds
  induction legs with
  | refl => exact ⟨fun before => (nomatch before), fun _ => waits⟩
  | @tail middle last _ _ served more earlier leg ih =>
    obtain ⟨taken, nearer⟩ := ih
    obtain ⟨rfl, keeps⟩ | ⟨rfl, keeps⟩ := leg.takes (earlier.consistent consistent)
    · rw [List.append_nil]
      exact ⟨taken, fun later => getElem?_of_prefix keeps (nearer later)⟩
    · rw [List.length_append, List.length_singleton]
      refine ⟨fun before => ?_, fun later => ?_⟩
      · obtain earlier | rfl : position < served.length ∨ position = served.length := by omega
        · rw [List.getElem?_append_left earlier]
          exact taken earlier
        · have head := nearer (Nat.le_refl _)
          rw [Nat.sub_self] at head
          rw [List.getElem?_concat_length, List.head?_eq_getElem?, head]
      · apply getElem?_of_prefix keeps
        rw [List.getElem?_tail, Nat.sub_add_eq, Nat.sub_add_cancel (Nat.le_sub_of_add_le' later)]
        exact nearer (Nat.le_of_succ_le later)

variable {position box : Nat}

/-- Until the run queue of the moment is used up, the dispatches take it in its order. -/
theorem Rounds.taken_eq (rounds : Rounds machine served last)
    (consistent : Consistent machine.state)
    (short : served.length ≤ machine.waiting.length) :
    served = (machine.waiting.take served.length).map some := by
  apply List.ext_getElem?
  intro position
  rw [List.getElem?_map]
  by_cases before : position < served.length
  · rw [List.getElem?_take_of_lt before]
    have waits : machine.waiting[position]? = some machine.waiting[position] :=
      List.getElem?_eq_getElem (Nat.lt_of_lt_of_le before short)
    rw [waits, (rounds.takes consistent waits).1 before, Option.map_some]
  · have after : served.length ≤ position := Nat.le_of_not_lt before
    have beyond := Nat.le_trans (List.length_take_le served.length machine.waiting) after
    rw [List.getElem?_eq_none after, List.getElem?_eq_none beyond, Option.map_none]

private theorem Rounds.nodup_taken (rounds : Rounds machine served last)
    (consistent : Consistent machine.state) (nodup : machine.waiting.Nodup)
    (short : served.length ≤ machine.waiting.length) : served.Nodup := by
  rw [rounds.taken_eq consistent short]
  exact (nodup.sublist (List.take_sublist ..)).map fun _ _ => Option.some.inj

private theorem Rounds.not_mem_take (rounds : Rounds machine served last)
    (consistent : Consistent machine.state) (nodup : machine.waiting.Nodup)
    (waits : machine.waiting[position]? = some box) :
    some box ∉ served.take position := by
  intro taken
  obtain ⟨earlier, before, same⟩ := List.mem_take_iff_getElem.1 taken
  obtain ⟨bound, waits⟩ := List.getElem?_eq_some_iff.1 waits
  have first : machine.waiting[earlier]? = some machine.waiting[earlier] :=
    List.getElem?_eq_getElem (by omega)
  have took := (rounds.takes consistent first).1 (by omega)
  rw [List.getElem?_eq_getElem (by omega), same, ← waits] at took
  have := (nodup.getElem_inj_iff).1 (Option.some.inj (Option.some.inj took))
  omega

/-- Between two services of one mailbox, all that waited at the first one are serviced. -/
theorem Rounds.mem_between {middle : List (Option Nat)} {other : Nat}
    (rounds : Rounds machine (some box :: (middle ++ [some box])) last)
    (consistent : Consistent machine.state)
    (nodup : machine.waiting.Nodup) (waits : other ∈ machine.waiting) (differs : other ≠ box) :
    some other ∈ middle := by
  have length : (some box :: (middle ++ [some box])).length = middle.length + 2 := by simp
  -- The second service of the mailbox comes only after the run queue of the first one.
  have behind : machine.waiting.length ≤ middle.length + 1 := by
    by_contra longer
    have distinct := rounds.nodup_taken consistent nodup (by omega)
    exact (List.nodup_cons.1 distinct).1 (List.mem_append_right _ List.mem_cons_self)
  obtain ⟨position, waits⟩ := List.mem_iff_getElem?.1 waits
  obtain ⟨bound, _⟩ := List.getElem?_eq_some_iff.1 waits
  have took := (rounds.takes consistent waits).1 (by omega)
  cases position with
  | zero => exact absurd (Option.some.inj (Option.some.inj took)).symm differs
  | succ position =>
    rw [List.getElem?_cons_succ, List.getElem?_append_left (by omega)] at took
    exact List.mem_of_getElem? took

/-- Up to the next service of a mailbox that waits, no mailbox is serviced twice. -/
theorem Rounds.nodup_until {middle : List (Option Nat)}
    (rounds : Rounds machine (middle ++ [some box]) last)
    (consistent : Consistent machine.state) (nodup : machine.waiting.Nodup)
    (waits : box ∈ machine.waiting) (next : some box ∉ middle) : middle.Nodup := by
  have length : (middle ++ [some box]).length = middle.length + 1 := List.length_append
  have within : middle.length < machine.waiting.length := by
    by_contra longer
    obtain ⟨position, waits⟩ := List.mem_iff_getElem?.1 waits
    obtain ⟨bound, _⟩ := List.getElem?_eq_some_iff.1 waits
    have took := (rounds.takes consistent waits).1 (by omega)
    rw [List.getElem?_append_left (by omega)] at took
    exact next (List.mem_of_getElem? took)
  exact (rounds.nodup_taken consistent nodup (by omega)).of_append_left

namespace Reachable

variable {config : Config} {modules : List (String × Module κ)}

/-- Whatever goes on before shutdown, a mailbox that waits at some position of the run queue is
taken by the dispatch that has as many before it, and by none of these. So between two services of
one mailbox, all that waited at the first one are serviced, and exactly once if the mailbox waits
again as soon as its first service is over. -/
theorem mailboxes_take_turns (reached : Reachable config modules machine) :
    (∀ last, Later (· ≠ .shutdown) machine last ↔ ∃ served, Rounds machine served last) ∧
    (∀ served last position box, Rounds machine served last →
      machine.waiting[position]? = some box →
        (position < served.length → served[position]? = some (some box)) ∧
          some box ∉ served.take position) ∧
    (∀ box middle last, Rounds machine (some box :: (middle ++ [some box])) last →
      ∀ other ∈ machine.waiting, other ≠ box → some other ∈ middle) ∧
    (∀ box middle rested last, Rounds machine [some box] rested → box ∈ rested.waiting →
      Rounds rested (middle ++ [some box]) last → some box ∉ middle →
        ∀ other ∈ machine.waiting, other ≠ box → middle.count (some other) = 1) := by
  have nodup : machine.waiting.Nodup := reached.sound.owned.nodup_waiting
  have consistent := reached.consistent
  refine ⟨fun last => ⟨fun later => ?_, fun ⟨_, _, legs⟩ => legs.later nofun nofun⟩, ?_, ?_, ?_⟩
  · obtain ⟨draws, served, legs⟩ := later.exists_legs
    exact ⟨served, draws, legs⟩
  · intro served last position box rounds waits
    exact ⟨(rounds.takes consistent waits).1, rounds.not_mem_take consistent nodup waits⟩
  · intro box middle last rounds other waits differs
    exact rounds.mem_between consistent nodup waits differs
  · intro box middle rested last first again second next other waits differs
    have within := (first.trans second).mem_between consistent nodup waits differs
    have rested := first.consistent consistent
    have distinct := second.nodup_until rested rested.sound.owned.nodup_waiting again next
    exact List.count_eq_one_of_mem distinct within

/-- A dispatch of an engine at rest, as long as the fuel lasts. -/
theorem dispatch (rested : Reachable config modules { engine, tasks := [] }) (fuel : Nat)
    (lasts : (engine.dispatchOnce? fuel).isSome) :
    Reachable config modules { engine := ((engine.dispatchOnce? fuel).get lasts).2, tasks := [] } ∧
      Rounds { engine, tasks := [] } [engine.roster.exchange.next?.map (·.1)]
        { engine := ((engine.dispatchOnce? fuel).get lasts).2, tasks := [] } := by
  have dispatched := (Option.some_get lasts).symm
  have performed : engine.perform? fuel .dispatch = some _ :=
    Option.map_eq_some_iff.2 ⟨_, dispatched, rfl⟩
  exact ⟨rested.performed performed, Engine.exists_legs_dispatchOnce _ dispatched⟩

end Reachable

/-- A module whose actors send themselves a message at first and at every message. -/
def echoer : Module Unit where
  create := .ok {
    init := fun own _ => .setCallback () fun _ => .send (.handle own) 1 [] fun _ => .finish (.ok ())
    receive := fun _ own _ => .send (.handle own) 1 [] fun _ => .finish (.ok ()) }

theorem Reachable.mailboxes_take_turns_of_echoer :
    ∃ machine rested last, Reachable Config.standard [("echo", echoer)] machine ∧
      machine.waiting = [0, 1, 2] ∧ Rounds machine [some 0] rested ∧
      rested.waiting = [1, 2, 0] ∧ Rounds rested ([some 1, some 2] ++ [some 0]) last ∧
      [some 1, some 2].count (some 2) = 1 := by
  have created : Engine.create Config.standard [("echo", echoer)] = .ok _ := rfl
  have reached := (Reachable.created created).performAll (Option.some_get (by decide +kernel :
    (Engine.performAll? 9 [.create "echo" "", .create "echo" "", .create "echo" ""] _).isSome)).symm
  obtain ⟨rested, first⟩ := reached.dispatch 9 (by decide +kernel)
  obtain ⟨resting, second⟩ := rested.dispatch 9 (by decide +kernel)
  obtain ⟨idling, third⟩ := resting.dispatch 9 (by decide +kernel)
  have last := (second.trans third).trans (idling.dispatch 9 (by decide +kernel)).2
  exact ⟨_, _, _, reached, by decide +kernel, first, by decide +kernel, last,
    reached.mailboxes_take_turns.2.2.2 0 [some 1, some 2] _ _ first (by decide +kernel) last
      (by decide +kernel) 2 (by decide +kernel) (by decide +kernel)⟩

end Mailroom
