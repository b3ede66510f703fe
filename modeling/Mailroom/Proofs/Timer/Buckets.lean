import Mailroom.Proofs.Timer.Ledger
import Mathlib.Algebra.BigOperators.Group.Finset.Basic
import Mathlib.Data.Fintype.Sigma
import Mathlib.Data.Fintype.Sum
import Mathlib.Tactic.DeriveFintype
/-! # The buckets of a wheel in use

Whatever was done to a wheel, a timer that waits is in one bucket and in no other, the one that its
expiry belongs in now. Some buckets stay empty: the first one of each tier below the coarsest, and
the one of the coarsest tier that the current tick is in. A tick empties one coarse bucket at most,
and what was in it goes to finer tiers, behind what is there.
-/

namespace Mailroom.Timer

deriving instance Fintype for Place

namespace Place

/-- A bucket in which nothing waits: the first one of a tier below the coarsest, or the one of the
coarsest tier that the current tick is in. -/
def Vacant (now : UInt32) : Place → Prop
  | near slot => slot.val = 0
  | coarse tier slot => slot.val = if tier.val = 3 then now.toNat / 67108864 else 0

private theorem not_vacant_ofExpiry {now expire : UInt32} (waits : Ahead now expire) :
    ¬ (ofExpiry now expire).Vacant now := by
  have := waits.bounds
  have := now.toNat_lt
  have := expire.toNat_lt
  simp only [ofExpiry]
  split_ifs <;> simp [Vacant, nearOf] <;> omega

end Place

namespace Wheel

variable {wheel : Wheel} {waiting : List Node}

/-! ### The cascade of a tick -/

/-- A wheel that a tick has advanced, with the timers of the bucket that the tick enters moved. -/
def cascaded (wheel : Wheel) : Wheel := cascade { wheel with now := wheel.now + 1 }

/-- What was in a bucket has moved to finer tiers, in its order and behind what was there, and
nothing else has changed. -/
structure Moved (before after : Wheel) (place : Place) : Prop where
  emptied : after.bucket place = []
  finer : ∀ node ∈ before.bucket place, (Place.ofExpiry after.now node.expire).rank < place.rank
  behind : ∀ other, other ≠ place → after.bucket other = before.bucket other ++
    (before.bucket place).filter fun node => Place.ofExpiry after.now node.expire = other

theorem Holds.mem_bucket_iff (holds : wheel.Holds waiting) {node : Node} {place : Place} :
    node ∈ wheel.bucket place ↔ node ∈ waiting ∧ Place.ofExpiry wheel.now node.expire = place := by
  rw [holds.bucket_eq, List.mem_filter, decide_eq_true_eq]

/-- A tick that enters no bucket moves nothing. -/
theorem bucket_cascaded_of_none (outside : Place.entered? (wheel.now + 1) = none) (place : Place) :
    wheel.cascaded.bucket place = wheel.bucket place := by
  rw [cascaded, cascade]
  simp only [outside, bucket_advanced]

/-- A tick that enters a bucket moves what is in it. -/
theorem Holds.moved (holds : wheel.Holds waiting) {place : Place}
    (enters : Place.entered? (wheel.now + 1) = some place) :
    Moved wheel wheel.cascaded place := by
  have bucket_eq (other : Place) : wheel.cascaded.bucket other =
      (if place = other then [] else wheel.bucket other) ++
        (wheel.bucket place).filter fun node =>
          Place.ofExpiry (wheel.now + 1) node.expire = other := by
    rw [cascaded, cascade]
    simp only [enters, bucket_spread, bucket_advanced]
  have now_eq : wheel.cascaded.now = wheel.now + 1 := now_cascade _
  have finer : ∀ node ∈ wheel.bucket place,
      (Place.ofExpiry (wheel.now + 1) node.expire).rank < place.rank := by
    intro node member
    obtain ⟨waits, rfl⟩ := holds.mem_bucket_iff.1 member
    exact Place.rank_ofExpiry_add_one_lt (holds.ahead node waits) enters
  refine ⟨?_, ?_, ?_⟩
  · -- Nothing comes back: what was in the bucket belongs in finer ones now.
    rw [bucket_eq, if_pos rfl, List.nil_append, List.filter_eq_nil_iff]
    intro node member
    have lower := finer node member
    simp only [decide_eq_true_eq]
    intro back
    rw [back] at lower
    exact Nat.lt_irrefl _ lower
  · rw [now_eq]
    exact finer
  · intro other apart
    rw [bucket_eq, if_neg apart.symm, now_eq]

/-! ### What is in the buckets -/

/-- Counted bucket by bucket, nothing is missing and nothing is counted twice. -/
theorem Holds.sum_length (holds : wheel.Holds waiting) :
    ∑ place, (wheel.bucket place).length = waiting.length := by
  have counted (place : Place) : (wheel.bucket place).length =
      (waiting.map fun node => Place.ofExpiry wheel.now node.expire).count place := by
    rw [holds.bucket_eq, ← List.countP_eq_length_filter, List.count_eq_countP, List.countP_map]
    rfl
  simp only [counted, ← Multiset.coe_count]
  rw [Multiset.sum_count_eq_card fun _ _ => Finset.mem_univ _, Multiset.coe_card, List.length_map]

/-- A wheel with its timers in order, given those that wait, the one added first in front. -/
structure Ordered (wheel : Wheel) (waiting : List Node) : Prop where
  /-- Each bucket has the timers whose expiries belong in it now. -/
  bucket_eq (place : Place) : wheel.bucket place =
    waiting.filter fun node => Place.ofExpiry wheel.now node.expire = place
  /-- Each timer is in one bucket. -/
  unique : ∀ node ∈ waiting, ∃! place, node ∈ wheel.bucket place
  /-- Each expiry is at least one tick and at most the longest delay ahead. -/
  within : ∀ node ∈ waiting, 0 < ahead wheel.now node.expire ∧
    ahead wheel.now node.expire ≤ maxDelay.toNat
  /-- Some buckets are empty at any time. -/
  vacant : ∀ place : Place, place.Vacant wheel.now → wheel.bucket place = []
  /-- The cascade of the next tick moves the timers of one bucket to finer tiers, or none. -/
  moved : (∀ place, wheel.cascaded.bucket place = wheel.bucket place) ∨
    ∃ place, Moved wheel wheel.cascaded place
  /-- The next tick leaves nothing behind that expires at it. -/
  spent : ∀ place, ∀ node ∈ wheel.tick.2.bucket place, node.expire ≠ wheel.tick.2.now
  /-- What is in the buckets is counted, and the next tick takes no more than is counted. -/
  pending_eq : wheel.pending = ∑ place, (wheel.bucket place).length
  pending_tick : wheel.tick.2.pending + wheel.tick.1.length = wheel.pending

private theorem Holds.ordered (holds : wheel.Holds waiting) : wheel.Ordered waiting where
  bucket_eq := holds.bucket_eq
  unique := by
    intro node member
    refine ⟨Place.ofExpiry wheel.now node.expire, holds.mem_bucket_iff.2 ⟨member, rfl⟩, ?_⟩
    intro place here
    exact (holds.mem_bucket_iff.1 here).2.symm
  within := holds.ahead
  vacant := by
    intro place vacant
    rw [List.eq_nil_iff_forall_not_mem]
    intro node member
    obtain ⟨waits, rfl⟩ := holds.mem_bucket_iff.1 member
    exact Place.not_vacant_ofExpiry (holds.ahead node waits) vacant
  moved := by
    cases enters : Place.entered? (wheel.now + 1) with
    | none => exact .inl (bucket_cascaded_of_none enters)
    | some place => exact .inr ⟨place, holds.moved enters⟩
  spent := by
    obtain ⟨_, now_eq, held⟩ := holds.tick
    intro place node member
    have left := (held.mem_bucket_iff.1 member).1
    rw [List.mem_filter, decide_eq_true_eq] at left
    rw [now_eq]
    exact left.2
  pending_eq := holds.pending_eq.trans holds.sum_length.symm
  pending_tick := by
    have counted : wheel.tick.2.pending = wheel.pending - wheel.tick.1.length := by
      simp [Wheel.tick]
    have enough : wheel.tick.1.length ≤ wheel.pending := by
      rw [holds.tick.1, holds.pending_eq]
      exact List.length_filter_le ..
    omega

/-! ### What was done to a wheel -/

/-- A wheel and the timers that wait in it by what was done to it: those that were added and that no
tick has taken since, the one added first in front. -/
structure History where
  wheel : Wheel
  waiting : List Node

namespace History

def startingAt (start : UInt32) : History := { wheel := .startingAt start, waiting := [] }

/-- A timeout without delay is delivered at once and never enters the wheel. -/
def step (history : History) : Step → History
  | .timeout request =>
    if request.delay = 0 then history
    else
      { wheel := history.wheel.add request.target request.delay request.session
        waiting := history.waiting ++
          [{ expire := history.wheel.expiry request.delay
             target := request.target
             session := request.session }] }
  | .advance =>
    { wheel := history.wheel.tick.2, waiting := history.waiting.diff history.wheel.tick.1 }

def run (start : UInt32) (steps : List Step) : History := steps.foldl step (startingAt start)

private theorem diff_filter (nodes : List Node) (expires : Node → Prop) [DecidablePred expires] :
    (nodes.diff (nodes.filter fun node => expires node)) =
      nodes.filter fun node => ¬ expires node := by
  induction nodes with
  | nil => rfl
  | cons node nodes ih =>
    by_cases taken : expires node
    · simp [taken, List.diff_cons, ih]
    · have stays : node ∉ nodes.filter fun node => expires node := by simp [taken]
      simp [taken, List.cons_diff, ih]

theorem holds_step {history : History} (holds : history.wheel.Holds history.waiting) (step : Step) :
    (history.step step).wheel.Holds (history.step step).waiting := by
  cases step with
  | timeout request =>
    rw [History.step]
    split
    · exact holds
    · rename_i positive
      exact holds.add request.target positive request.session
  | advance =>
    obtain ⟨expired, _, held⟩ := holds.tick
    rw [History.step, expired, diff_filter]
    exact held

theorem holds_run (start : UInt32) (steps : List Step) :
    (run start steps).wheel.Holds (run start steps).waiting :=
  List.foldlRecOn (motive := fun history => history.wheel.Holds history.waiting) steps step
    (holds_startingAt start) fun _ holds step _ => holds_step holds step

/-- Whatever timeouts and advances there were, from any start tick, a wheel has in order the timers
that were added and that no advance has taken. -/
theorem wheel_is_ordered (start : UInt32) (steps : List Step) :
    (run start steps).wheel.Ordered (run start steps).waiting :=
  (holds_run start steps).ordered

/-- A timer that expires past the wrap waits in the first bucket of the coarsest tier, and the wrap
brings it near. -/
example :
    let added := [Step.timeout { target := ⟨7⟩, delay := 5, session := 1 }]
    (run 4294967295 added).wheel.bucket (.coarse 3 0) = (run 4294967295 added).waiting ∧
      (run 4294967295 (added ++ [.advance])).wheel.bucket (.near 4) =
        (run 4294967295 added).waiting := by
  decide

end History

end Wheel

end Mailroom.Timer
