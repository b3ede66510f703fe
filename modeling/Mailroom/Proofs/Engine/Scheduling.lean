import Mailroom.Proofs.Engine.Runs
/-! # No mailbox is stuck

In every state of every run a mailbox with messages has one place in the run queue, or belongs to an
actor whose init is not done, or is in service. So an engine at rest has something to dispatch for as
long as there is a message in any mailbox.
-/

namespace Mailroom

variable {κ : Type} {config : Config} {modules : List (String × Module κ)} {machine : Machine κ}

/-- The actors whose inits are not done. -/
def Machine.inits (machine : Machine κ) : List Nat := machine.tasks.filterMap Task.init?

theorem Machine.mem_hands_iff {number : Nat} :
    number ∈ machine.hands ↔
      number ∈ machine.inits ∨ ∃ actor, (number, actor) ∈ machine.services := by
  simp only [hands, inits, services, List.mem_filterMap]
  constructor
  · rintro ⟨task, member, hand⟩
    cases task with
    | run actor purpose program =>
      cases purpose with
      | init => exact .inl ⟨_, member, hand⟩
      | callback session => cases hand
    | resume actor purpose next =>
      cases purpose with
      | init => exact .inl ⟨_, member, hand⟩
      | callback session => cases hand
    | service box actor left invoked =>
      obtain rfl := Option.some.inj hand
      exact .inr ⟨actor, _, member, rfl⟩
    | launch module args => cases hand
    | launched result => cases hand
    | serviced invoked => cases hand
  · rintro (⟨task, member, init⟩ | ⟨actor, task, member, service⟩)
    · exact ⟨task, member, by rw [Task.hand?, init]; rfl⟩
    · cases task with
      | service box receiver left invoked =>
        obtain ⟨rfl, rfl⟩ := Prod.mk.inj (Option.some.inj service)
        exact ⟨_, member, rfl⟩
      | _ => cases service

theorem Engine.dispatchOnce?_eq_blocked_iff {engine : Engine κ} {fuel : Nat} :
    (∃ after, engine.dispatchOnce? fuel = some (.blocked, after)) ↔
      engine.roster.exchange.waiting = [] := by
  rw [← Exchange.next?_eq_none_iff]
  unfold dispatchOnce?
  cases taken : engine.roster.exchange.next? with
  | none => simp
  | some head =>
    simp only [reduceCtorEq, iff_false, not_exists]
    intro after dispatched
    split at dispatched
    · exact nomatch dispatched
    · obtain ⟨done, _, dispatched⟩ := Option.bind_eq_some_iff.1 dispatched
      split at dispatched
      · exact nomatch dispatched
      · exact nomatch dispatched

namespace Reachable

/-- A mailbox is in the run queue at most once, and only while it has messages and is scheduled; an
unscheduled one is empty; one that is scheduled and not in the run queue is that of an actor whose
init is not done, or is in service; and that of a live actor is not released. So there is nothing to
dispatch at rest if and only if no mailbox has a message. -/
theorem no_mailbox_is_stuck (reached : Reachable config modules machine) :
    (∀ number box, machine.engine.roster.exchange.box? number = some box →
      machine.engine.roster.exchange.waiting.count number ≤ 1 ∧
      (number ∈ machine.engine.roster.exchange.waiting →
        box.messages.toList ≠ [] ∧ box.scheduled = true) ∧
      (box.scheduled = false → box.messages.toList = []) ∧
      (box.scheduled = true ∧ number ∉ machine.engine.roster.exchange.waiting ↔
        number ∈ machine.inits ∨ ∃ actor, (number, actor) ∈ machine.services) ∧
      ∀ handle, machine.engine.roster.find? handle = some number → box.released = false) ∧
    (machine.tasks = [] → ∀ fuel,
      (∃ after, machine.engine.dispatchOnce? fuel = some (.blocked, after)) ↔
        ∀ number box, machine.engine.roster.exchange.box? number = some box →
          box.messages.toList = []) := by
  have sound := reached.sound
  have owned := sound.owned
  refine ⟨fun number box found => ⟨?_, ?_, ?_, ?_, ?_⟩, fun rests fuel => ?_⟩
  · have one := owned.one found
    split at one <;> omega
  · exact fun waits => ⟨owned.filled found waits, owned.scheduled found (.inl waits)⟩
  · exact owned.idle found
  · rw [← Machine.mem_hands_iff]
    constructor
    · rintro ⟨scheduled, absent⟩
      have one := owned.one found
      rw [List.count_eq_zero.2 absent, scheduled, if_pos rfl] at one
      exact List.count_pos_iff.1 (by omega)
    · exact fun held => ⟨owned.scheduled found (.inr held), owned.not_waiting held⟩
  · intro handle live
    have accepting := sound.accepting live
    rwa [Exchange.isReleased, found] at accepting
  · rw [Engine.dispatchOnce?_eq_blocked_iff]
    rw [Machine.hands, rests] at owned
    exact owned.waiting_eq_nil_iff

end Reachable

/-- A module whose actors send themselves a message while their inits run. -/
def selfSender : Module Unit where
  create := .ok {
    init := fun handle _ => .send (.handle handle) 1 [] fun _ => .finish (.ok ())
    receive := fun _ _ _ => .finish (.ok ()) }

theorem Reachable.no_mailbox_is_stuck_in_init :
    ∃ machine, Reachable Config.standard [("self", selfSender)] machine ∧
      machine.inits = [0] ∧
      machine.engine.roster.exchange.messages 0 =
        [{ source := some ⟨1⟩, session := 1, payload := [] }] ∧
      0 ∉ machine.engine.roster.exchange.waiting := by
  have created : Engine.create Config.standard [("self", selfSender)] = .ok _ := rfl
  have reached := ((Reachable.created created).launching "self" "").stepped.stepped
  have held := (reached.no_mailbox_is_stuck.1 0 _ rfl).2.2.2.1.2 (.inl (by decide +kernel))
  exact ⟨_, reached, by decide +kernel, by decide +kernel, held.2⟩

end Mailroom
