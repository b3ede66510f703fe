import Mailroom.Proofs.Engine.Runs
import Mathlib.Data.List.Infix
import Mathlib.Data.List.Nodup
/-! # The order of the run queue

Whatever happens appends to the run queue, and only a dispatch takes from it, at its head.
-/

namespace Mailroom

variable {κ : Type} {scope : Scope}

namespace Exchange

variable {exchange : Exchange} {number : Nat} {hands : List Nat}

private theorem waiting_settle (exchange : Exchange) (number : Nat) (settlement : Settlement) :
    exchange.waiting <+: (exchange.settle number settlement).waiting := by
  rw [settle_eq]
  split
  · rw [waiting_schedule]
    exact List.prefix_append ..
  · exact List.prefix_refl _

private theorem waiting_settleBy (operation : Mailbox → Settlement) (exchange : Exchange)
    (number : Nat) :
    exchange.waiting <+: (settleBy operation exchange number).2.waiting := by
  cases found : exchange.box? number with
  | none =>
    rw [settleBy_of_none found]
  | some box =>
    rw [settleBy_eq found]
    exact exchange.waiting_settle ..

private theorem waiting_post (exchange : Exchange) (number : Nat) (message : Message) :
    exchange.waiting <+: (exchange.post number message).2.waiting := by
  obtain same | ⟨_, _, _, _, same⟩ := exchange.post_cases number message
  · rw [same]
  · rw [same]
    exact exchange.waiting_settle ..

private theorem waiting_take (exchange : Exchange) (number : Nat) :
    (exchange.take number).2.waiting = exchange.waiting := by
  obtain same | ⟨_, _, _, _, _, same⟩ := exchange.take_cases number <;> rw [same]
  rfl

theorem Owned.nodup_waiting (owned : exchange.Owned hands) : exchange.waiting.Nodup := by
  rw [List.nodup_iff_count_le_one]
  intro number
  by_cases waits : number ∈ exchange.waiting
  · obtain ⟨box, found⟩ := owned.known (.inl waits)
    have one := owned.one found
    split at one <;> omega
  · rw [List.count_eq_zero.2 waits]
    exact Nat.zero_le 1

end Exchange

/-! ### Places in the run queue -/

namespace Roster

variable {roster middle after : Roster κ}

/-- Every mailbox that waits keeps its place, and others come behind. -/
def Appends (roster after : Roster κ) : Prop := roster.exchange.waiting <+: after.exchange.waiting

theorem Appends.refl (roster : Roster κ) : roster.Appends roster := List.prefix_refl _

theorem Appends.trans (first : roster.Appends middle) (second : middle.Appends after) :
    roster.Appends after := List.IsPrefix.trans first second

theorem Appends.of_eq (same : after.exchange.waiting = roster.exchange.waiting) :
    roster.Appends after := by
  rw [Appends, same]

theorem appends_settleBy (roster : Roster κ) (operation : Mailbox → Settlement)
    (reason : DropReason) (box : Nat) (handle : Handle) :
    roster.Appends (roster.settleBy (Exchange.settleBy operation) reason box handle) := by
  rw [settleBy_frame]
  exact Exchange.waiting_settleBy ..

private theorem appends_take {exchange : Exchange} {box : Nat} {message : Option Message}
    (taken : roster.exchange.take box = (message, exchange)) :
    roster.Appends { roster with exchange } := by
  obtain rfl : (roster.exchange.take box).2 = exchange := by rw [taken]
  exact .of_eq (roster.exchange.waiting_take box)

/-- Of the moves of a roster only one takes from the run queue. -/
theorem Move.appends {start stop : Roster κ × List Nat} (move : Move scope start stop)
    (waits : ¬ scope.takes) : start.1.Appends stop.1 := by
  cases move with
  | note event silent => exact .refl _
  | refuse destination reason message => exact .refl _
  | post live message =>
    rw [post_frame]
    exact Exchange.waiting_post ..
  | finish box => exact appends_settleBy _ Mailbox.finish ..
  | release gone reason => exact appends_settleBy _ Mailbox.release ..
  | markReleased gone => exact appends_settleBy _ Mailbox.markReleased ..
  | next allowed taken => exact absurd allowed waits
  | invoke taken belongs has => exact (appends_take taken :)
  | skip taken => exact (appends_take taken :)
  | enroll module args behaviour capacity =>
    rw [enroll_eq]
    dsimp only
    split
    · exact .of_eq rfl
    · exact .of_eq (Exchange.waiting_add ..)
  | unlist handle => exact .of_eq rfl
  | rename bound => exact .of_eq rfl
  | modify actor keeps counts serves => exact .of_eq rfl
  | outlet outlet => exact .of_eq rfl

private theorem Moves.appends {start stop : Roster κ × List Nat} (moves : Moves scope start stop)
    (waits : ¬ scope.takes) : start.1.Appends stop.1 := by
  induction moves with
  | refl => exact .refl _
  | tail _ move ih => exact ih.trans (move.appends waits)

end Roster

/-- Everything but that a mailbox is taken from the run queue. -/
def Scope.resting : Scope := { Scope.any with takes := False }

/-- What happens without a dispatch appends to the run queue. -/
theorem Happens.appends {may : Request → Prop} {start stop : Engine κ × List Claim}
    (happens : Happens .resting may start stop) (consistent : Consistent start) :
    start.1.roster.Appends stop.1.roster :=
  Roster.Moves.appends (happens.moves consistent) id

end Mailroom
