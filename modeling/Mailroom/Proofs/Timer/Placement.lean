import Mailroom.Timer.Wheel
import Mathlib.Tactic.ByContra
import Mathlib.Tactic.SplitIfs
/-! # Where a timer waits

The buckets of a wheel are ranked by how coarse they are. A timer's rank says how much of its expiry
the current tick shares, and rank and expiry together give its bucket. When the tick advances, ranks
never rise, a rank falls only by entering the bucket of the timer, and whatever waits in finer
buckets than the one entered was due before: those are empty, so moving timers keeps their order.
-/

namespace Mailroom.Timer

/-- The ticks until an expiry. -/
def ahead (now expire : UInt32) : Nat := (expire - now).toNat

/-- An expiry that a timer can wait for: it is not the current tick and at most the longest delay
away. -/
def Ahead (now expire : UInt32) : Prop := 0 < ahead now expire ∧ ahead now expire ≤ maxDelay.toNat

/-- The ticks of one bucket of a tier. -/
def width : Nat → Nat
  | 0 => 256
  | tier + 1 => 64 * width tier

private theorem ahead_eq (now expire : UInt32) :
    ahead now expire = (4294967296 - now.toNat + expire.toNat) % 4294967296 :=
  UInt32.toNat_sub expire now

private theorem toNat_add_one (now : UInt32) :
    (now + 1).toNat = (now.toNat + 1) % 4294967296 := by
  rw [UInt32.toNat_add]; rfl

theorem toNat_min (a b : UInt32) : (min a b).toNat = min a.toNat b.toNat := by
  change (if a ≤ b then a else b).toNat = _
  rw [Nat.min_def]
  split <;> rename_i least <;> simp only [← UInt32.le_iff_toNat_le, least, if_true, if_false]

/-- What `Ahead` says of the ticks as numbers. -/
theorem Ahead.bounds {now expire : UInt32} (waits : Ahead now expire) :
    0 < (4294967296 - now.toNat + expire.toNat) % 4294967296 ∧
      (4294967296 - now.toNat + expire.toNat) % 4294967296 ≤ 4227858432 := by
  rwa [Ahead, ahead_eq] at waits

private theorem width_succ (tier : Nat) : width (tier + 1) = 64 * width tier := rfl

private theorem width_cases {tier : Nat} (bound : tier < 4) :
    tier = 0 ∧ width tier = 256 ∨ tier = 1 ∧ width tier = 16384 ∨
      tier = 2 ∧ width tier = 1048576 ∨ tier = 3 ∧ width tier = 67108864 := by
  match tier, bound with
  | 0, _ => simp [width]
  | 1, _ => simp [width]
  | 2, _ => simp [width]
  | 3, _ => simp [width]

namespace Place

/-- How coarse a bucket is, from the near ones on. -/
def rank : Place → Nat
  | near _ => 0
  | coarse tier _ => tier.val + 1

private theorem mod_tiers_lt (tier : Nat) : tier % 4 < 4 := Nat.mod_lt tier (by decide)

private theorem mod_slots_lt (slot : Nat) : slot % 64 < 64 := Nat.mod_lt slot (by decide)

/-- The bucket of a rank for an expiry. -/
def ofRank (due : Nat) : Nat → Place
  | 0 => nearOf due
  | tier + 1 => coarse ⟨tier % 4, mod_tiers_lt tier⟩ ⟨due / width tier % 64, mod_slots_lt _⟩

private theorem rank_le_four (place : Place) : place.rank ≤ 4 := by
  cases place with
  | near slot => simp [rank]
  | coarse tier slot => simp only [rank]; omega

private theorem ofExpiry_eq_ofRank (now expire : UInt32) :
    ofExpiry now expire = ofRank expire.toNat (ofExpiry now expire).rank := by
  simp only [ofExpiry]
  split_ifs <;> rfl

/-- A timer's rank says which blocks of ticks its expiry shares with the current tick. -/
theorem rank_ofExpiry_le_iff {now expire : UInt32} {tier : Nat} (bound : tier < 4) :
    (ofExpiry now expire).rank ≤ tier ↔ expire.toNat / width tier = now.toNat / width tier := by
  simp only [ofExpiry]
  obtain ⟨rfl, size⟩ | ⟨rfl, size⟩ | ⟨rfl, size⟩ | ⟨rfl, size⟩ := width_cases bound <;> rw [size] <;>
    split_ifs <;> simp [rank, nearOf] <;> omega

private theorem rank_entered {now : UInt32} {place : Place} (enters : entered? now = some place) :
    0 < place.rank := by
  simp only [entered?] at enters
  split_ifs at enters <;> simp [← Option.some.inj enters, rank]

/-- A tick that enters a bucket is the first one of a block as wide as the bucket. -/
theorem mod_width_of_entered {now : UInt32} {place : Place} (enters : entered? now = some place)
    {tier : Nat} (finer : tier < place.rank) : now.toNat % width tier = 0 := by
  have bound : tier < 4 := Nat.lt_of_lt_of_le finer place.rank_le_four
  simp only [entered?] at enters
  obtain ⟨rfl, size⟩ | ⟨rfl, size⟩ | ⟨rfl, size⟩ | ⟨rfl, size⟩ := width_cases bound <;> rw [size] <;>
    split_ifs at enters <;> simp [← Option.some.inj enters, rank] at finer <;> omega

/-- The bucket that a tick enters, by the widest block that begins at it. -/
theorem entered?_of_begins {now : UInt32} {tier : Nat} (bound : tier < 4)
    (begins : now.toNat % width tier = 0)
    (inside : tier < 3 → now.toNat % width (tier + 1) ≠ 0) :
    entered? now = some (ofRank now.toNat (tier + 1)) := by
  rw [width_succ] at inside
  simp only [entered?]
  obtain ⟨rfl, size⟩ | ⟨rfl, size⟩ | ⟨rfl, size⟩ | ⟨rfl, size⟩ := width_cases bound <;>
    rw [size] at begins inside <;> split_ifs <;> first | rfl | omega

/-- A block that holds the expiry and the current tick holds the next tick. -/
theorem shares_next {now expire : UInt32} (waits : Ahead now expire) {tier : Nat}
    (bound : tier < 4) (shares : expire.toNat / width tier = now.toNat / width tier) :
    expire.toNat / width tier = (now + 1).toNat / width tier := by
  have := waits.bounds
  have := now.toNat_lt
  have := expire.toNat_lt
  rw [toNat_add_one]
  obtain ⟨rfl, size⟩ | ⟨rfl, size⟩ | ⟨rfl, size⟩ | ⟨rfl, size⟩ := width_cases bound <;>
    rw [size] at shares ⊢ <;> omega

/-- A tick that begins a block leaves nothing behind that was due in the block before. -/
theorem not_shares_of_begins {now expire : UInt32} (waits : Ahead now expire) {tier : Nat}
    (bound : tier < 4) (begins : (now + 1).toNat % width tier = 0) :
    expire.toNat / width tier ≠ now.toNat / width tier := by
  have := waits.bounds
  have := now.toNat_lt
  have := expire.toNat_lt
  rw [toNat_add_one] at begins
  obtain ⟨rfl, size⟩ | ⟨rfl, size⟩ | ⟨rfl, size⟩ | ⟨rfl, size⟩ := width_cases bound <;>
    rw [size] at begins ⊢ <;> omega

/-- A tick in another block than the one before it begins its block. -/
theorem begins_of_div_ne {now : UInt32} {tier : Nat} (bound : tier < 4)
    (apart : (now + 1).toNat / width tier ≠ now.toNat / width tier) :
    (now + 1).toNat % width tier = 0 := by
  have := now.toNat_lt
  rw [toNat_add_one] at apart ⊢
  obtain ⟨rfl, size⟩ | ⟨rfl, size⟩ | ⟨rfl, size⟩ | ⟨rfl, size⟩ := width_cases bound <;>
    rw [size] at apart ⊢ <;> omega

private theorem rank_ofExpiry_add_one_le {now expire : UInt32} (waits : Ahead now expire) :
    (ofExpiry (now + 1) expire).rank ≤ (ofExpiry now expire).rank := by
  by_cases bound : (ofExpiry now expire).rank < 4
  · exact (rank_ofExpiry_le_iff bound).2
      (shares_next waits bound ((rank_ofExpiry_le_iff bound).1 (Nat.le_refl _)))
  · have := (ofExpiry (now + 1) expire).rank_le_four
    omega

/-- The finer buckets than the one that a tick enters are empty. -/
theorem rank_entered_le {now expire : UInt32} (waits : Ahead now expire) {place : Place}
    (enters : entered? (now + 1) = some place) : place.rank ≤ (ofExpiry now expire).rank := by
  refine Nat.le_of_not_lt fun finer => ?_
  have bound : (ofExpiry now expire).rank < 4 := by have := place.rank_le_four; omega
  have shares := (rank_ofExpiry_le_iff bound).1 (Nat.le_refl _)
  exact not_shares_of_begins waits bound (mod_width_of_entered enters (by omega)) shares

/-- A bucket that a tick enters is the tick's own of its rank. -/
theorem eq_ofRank_of_entered {now : UInt32} {place : Place} (enters : entered? now = some place) :
    place = ofRank now.toNat place.rank := by
  simp only [entered?] at enters
  split_ifs at enters <;> obtain rfl := Option.some.inj enters <;> rfl

/-- A timer in the bucket that a tick enters shares the tick's block of that width. -/
theorem shares_of_entered {now expire : UInt32} (waits : Ahead now expire) {tier : Nat}
    (bound : tier < 4) (level : (ofExpiry now expire).rank = tier + 1)
    (enters : entered? (now + 1) = some (ofExpiry now expire)) :
    expire.toNat / width tier = (now + 1).toNat / width tier := by
  have same := eq_ofRank_of_entered enters
  rw [level, ofExpiry_eq_ofRank now expire, level] at same
  have slots : expire.toNat / width tier % 64 = (now + 1).toNat / width tier % 64 := by
    simpa only [ofRank, coarse.injEq, true_and, Fin.ext_iff, Fin.val_ofNat] using same
  by_cases top : tier = 3
  · subst top
    have := expire.toNat_lt
    have := (now + 1).toNat_lt
    have size : width 3 = 67108864 := rfl
    rw [size] at slots ⊢
    omega
  · have inner : tier + 1 < 4 := by omega
    have outer := shares_next waits inner ((rank_ofExpiry_le_iff inner).1 (Nat.le_of_eq level))
    rw [width_succ, Nat.mul_comm, ← Nat.div_div_eq_div_mul, ← Nat.div_div_eq_div_mul] at outer
    omega

/-- A timer in the bucket that a tick enters moves to a finer one. -/
theorem rank_ofExpiry_add_one_lt {now expire : UInt32} (waits : Ahead now expire)
    (enters : entered? (now + 1) = some (ofExpiry now expire)) :
    (ofExpiry (now + 1) expire).rank < (ofExpiry now expire).rank := by
  have positive := rank_entered enters
  have most := (ofExpiry now expire).rank_le_four
  obtain ⟨tier, level⟩ : ∃ tier, (ofExpiry now expire).rank = tier + 1 :=
    Nat.exists_eq_add_one.2 positive
  have bound : tier < 4 := by omega
  rw [level, Nat.lt_succ_iff, rank_ofExpiry_le_iff bound]
  exact shares_of_entered waits bound level enters

/-- A timer outside the bucket that a tick enters stays where it is. -/
theorem ofExpiry_add_one {now expire : UInt32} (waits : Ahead now expire)
    (stays : entered? (now + 1) ≠ some (ofExpiry now expire)) :
    ofExpiry (now + 1) expire = ofExpiry now expire := by
  have most := (ofExpiry now expire).rank_le_four
  obtain same | falls := Nat.eq_or_lt_of_le (rank_ofExpiry_add_one_le waits)
  · rw [ofExpiry_eq_ofRank, same, ← ofExpiry_eq_ofRank]
  refine (stays ?_).elim
  obtain ⟨tier, level⟩ : ∃ tier, (ofExpiry now expire).rank = tier + 1 :=
    Nat.exists_eq_add_one.2 (Nat.lt_of_le_of_lt (Nat.zero_le _) falls)
  have bound : tier < 4 := by omega
  have shares : expire.toNat / width tier = (now + 1).toNat / width tier :=
    (rank_ofExpiry_le_iff bound).1 (by omega)
  have apart : expire.toNat / width tier ≠ now.toNat / width tier := fun shared => by
    have finer : (ofExpiry now expire).rank ≤ tier := (rank_ofExpiry_le_iff bound).2 shared
    omega
  have begins := begins_of_div_ne bound (shares ▸ apart)
  have inside : tier < 3 → (now + 1).toNat % width (tier + 1) ≠ 0 := fun below wider =>
    not_shares_of_begins waits (by omega) wider
      ((rank_ofExpiry_le_iff (by omega)).1 (Nat.le_of_eq level))
  rw [entered?_of_begins bound begins inside, ofExpiry_eq_ofRank now expire, level]
  simp only [ofRank, shares]

/-- The near bucket of the current tick is for the timers that are due. -/
theorem ofExpiry_eq_nearOf_iff {now expire : UInt32} :
    ofExpiry now expire = nearOf now.toNat ↔ expire = now := by
  constructor
  · intro due
    have finest : (ofExpiry now expire).rank = 0 := by rw [due]; rfl
    have block : expire.toNat / 256 = now.toNat / 256 :=
      (rank_ofExpiry_le_iff (by decide : 0 < 4)).1 (Nat.le_of_eq finest)
    have slot : expire.toNat % 256 = now.toNat % 256 := by
      rw [ofExpiry_eq_ofRank, finest] at due
      simpa only [ofRank, nearOf, near.injEq, Fin.ext_iff, Fin.val_ofNat] using due
    apply UInt32.toNat_inj.1
    omega
  · rintro rfl
    simp only [ofExpiry, if_true]

end Place

/-! ### What a wheel holds -/

namespace Wheel

/-- A wheel that holds timers, the one added first in front: each is where its expiry belongs at the
current tick, and in the order in which the timers were added. -/
structure Holds (wheel : Wheel) (nodes : List Node) : Prop where
  bucket_eq (place : Place) : wheel.bucket place =
    nodes.filter fun node => Place.ofExpiry wheel.now node.expire = place
  ahead : ∀ node ∈ nodes, Ahead wheel.now node.expire
  pending_eq : wheel.pending = nodes.length

private theorem bucket_startingAt (now : UInt32) (place : Place) :
    (startingAt now).bucket place = [] := by
  cases place <;> simp [startingAt, bucket, newest]

theorem holds_startingAt (now : UInt32) : (startingAt now).Holds [] where
  bucket_eq place := bucket_startingAt now place
  ahead := by simp
  pending_eq := rfl

@[simp] theorem now_emptied (wheel : Wheel) (place : Place) :
    (wheel.emptied place).now = wheel.now :=
  now_withNewest ..

@[simp] theorem pending_emptied (wheel : Wheel) (place : Place) :
    (wheel.emptied place).pending = wheel.pending :=
  pending_withNewest ..

@[simp] theorem now_place (wheel : Wheel) (node : Node) : (wheel.place node).now = wheel.now :=
  now_withNewest ..

@[simp] theorem pending_place (wheel : Wheel) (node : Node) :
    (wheel.place node).pending = wheel.pending :=
  pending_withNewest ..

private theorem bucket_place (wheel : Wheel) (node : Node) (place : Place) :
    (wheel.place node).bucket place =
      wheel.bucket place ++ [node].filter fun node => Place.ofExpiry wheel.now node.expire = place := by
  rw [Wheel.place, bucket_append]
  by_cases here : Place.ofExpiry wheel.now node.expire = place <;> simp [here]

/-- Timers that are placed one after the other go behind those that a bucket has. -/
theorem bucket_foldl_place (nodes : List Node) (wheel : Wheel) (place : Place) :
    (nodes.foldl Wheel.place wheel).bucket place =
      wheel.bucket place ++
        nodes.filter fun node => Place.ofExpiry wheel.now node.expire = place := by
  induction nodes generalizing wheel with
  | nil => simp
  | cons node nodes ih =>
    rw [List.foldl_cons, ih, bucket_place, now_place, List.append_assoc, ← List.filter_append]
    rfl

theorem bucket_advanced (wheel : Wheel) (now : UInt32) (place : Place) :
    Wheel.bucket { wheel with now := now } place = wheel.bucket place := by
  cases place <;> rfl

/-- Spreading a bucket empties it and puts what was in it behind what the buckets have. -/
theorem bucket_spread (wheel : Wheel) (place other : Place) :
    (wheel.spread place).bucket other =
      (if place = other then [] else wheel.bucket other) ++
        (wheel.bucket place).filter fun node => Place.ofExpiry wheel.now node.expire = other := by
  rw [spread, bucket_foldl_place, bucket_emptied, now_emptied]

/-- Nothing waits where the timers of the bucket that a tick enters go. -/
private theorem ofExpiry_ne_of_moved {now expire moved : UInt32} {place : Place}
    (enters : Place.entered? (now + 1) = some place) (waits : Ahead now expire)
    (moves : Ahead now moved) (leaves : Place.ofExpiry now moved = place) :
    Place.ofExpiry now expire ≠ Place.ofExpiry (now + 1) moved := by
  intro same
  have finer := Place.rank_ofExpiry_add_one_lt moves (leaves ▸ enters)
  have least := Place.rank_entered_le waits enters
  rw [leaves] at finer
  rw [same] at least
  omega

/-- Each bucket after the timers of the entered one have moved, by what it was before. -/
private theorem filter_spread {now : UInt32} {nodes : List Node}
    (waits : ∀ node ∈ nodes, Ahead now node.expire) {place : Place}
    (enters : Place.entered? (now + 1) = some place) (other : Place) :
    (if place = other then []
      else nodes.filter fun node => Place.ofExpiry now node.expire = other) ++
        (nodes.filter fun node => Place.ofExpiry now node.expire = place).filter
          (fun node => Place.ofExpiry (now + 1) node.expire = other) =
      nodes.filter fun node => Place.ofExpiry (now + 1) node.expire = other := by
  have stays : ∀ node ∈ nodes, Place.ofExpiry now node.expire ≠ place →
      Place.ofExpiry (now + 1) node.expire = Place.ofExpiry now node.expire :=
    fun node member outside => Place.ofExpiry_add_one (waits node member)
      fun enters' => outside (Option.some.inj (enters'.symm.trans enters))
  by_cases target : ∃ node ∈ nodes, Place.ofExpiry now node.expire = place ∧
      Place.ofExpiry (now + 1) node.expire = other
  · -- The bucket is one that timers move to: it was empty, and all that is there now has moved.
    obtain ⟨moved, here, leaves, rfl⟩ := target
    have vacant : ∀ node ∈ nodes,
        Place.ofExpiry now node.expire ≠ Place.ofExpiry (now + 1) moved.expire :=
      fun node member => ofExpiry_ne_of_moved enters (waits node member) (waits moved here) leaves
    have before : (nodes.filter fun node =>
        Place.ofExpiry now node.expire = Place.ofExpiry (now + 1) moved.expire) = [] := by
      simpa using vacant
    rw [before, ite_self, List.nil_append, List.filter_filter]
    refine List.filter_congr fun node member => ?_
    rw [← Bool.decide_and, decide_eq_decide, and_iff_left_iff_imp]
    intro arrives
    by_contra outside
    exact vacant node member ((stays node member outside).symm.trans arrives)
  · -- The bucket is none of those: what was there stays, unless it is the one that is emptied.
    have untouched : ∀ node ∈ nodes, Place.ofExpiry now node.expire = place →
        Place.ofExpiry (now + 1) node.expire ≠ other :=
      fun node member leaves arrives => target ⟨node, member, leaves, arrives⟩
    have none_moved : ((nodes.filter fun node => Place.ofExpiry now node.expire = place).filter
        fun node => Place.ofExpiry (now + 1) node.expire = other) = [] := by
      simp only [List.filter_eq_nil_iff, List.mem_filter, decide_eq_true_eq]
      exact fun node ⟨member, leaves⟩ => untouched node member leaves
    rw [none_moved, List.append_nil]
    split
    · rename_i same
      subst same
      symm
      simp only [List.filter_eq_nil_iff, decide_eq_true_eq]
      intro node member arrives
      by_cases leaves : Place.ofExpiry now node.expire = place
      · exact untouched node member leaves arrives
      · exact leaves ((stays node member leaves).symm.trans arrives)
    · rename_i apart
      refine List.filter_congr fun node member => ?_
      rw [decide_eq_decide]
      by_cases leaves : Place.ofExpiry now node.expire = place
      · exact ⟨fun same => (apart (leaves.symm.trans same)).elim,
          fun arrives => (untouched node member leaves arrives).elim⟩
      · rw [stays node member leaves]

@[simp] theorem now_spread (wheel : Wheel) (place : Place) :
    (wheel.spread place).now = wheel.now := by
  suffices moved : ∀ (nodes : List Node) (wheel : Wheel),
      (nodes.foldl Wheel.place wheel).now = wheel.now from (moved ..).trans (now_withNewest ..)
  intro nodes
  induction nodes with
  | nil => intro wheel; rfl
  | cons node nodes ih => intro wheel; rw [List.foldl_cons, ih, now_place]

@[simp] theorem pending_spread (wheel : Wheel) (place : Place) :
    (wheel.spread place).pending = wheel.pending := by
  suffices moved : ∀ (nodes : List Node) (wheel : Wheel),
      (nodes.foldl Wheel.place wheel).pending = wheel.pending from
    (moved ..).trans (pending_withNewest ..)
  intro nodes
  induction nodes with
  | nil => intro wheel; rfl
  | cons node nodes ih => intro wheel; rw [List.foldl_cons, ih, pending_place]

@[simp] theorem now_cascade (wheel : Wheel) : wheel.cascade.now = wheel.now := by
  unfold cascade
  split
  · rfl
  · exact now_spread ..

@[simp] theorem pending_cascade (wheel : Wheel) : wheel.cascade.pending = wheel.pending := by
  unfold cascade
  split
  · rfl
  · exact pending_spread ..

/-- After the cascade of a tick each timer is where its expiry belongs at that tick, in the order in
which the timers were added. -/
theorem Holds.bucket_cascade {wheel : Wheel} {nodes : List Node} (holds : wheel.Holds nodes)
    (place : Place) : (cascade { wheel with now := wheel.now + 1 }).bucket place =
      nodes.filter fun node => Place.ofExpiry (wheel.now + 1) node.expire = place := by
  have before (place : Place) : Wheel.bucket { wheel with now := wheel.now + 1 } place =
      nodes.filter fun node => Place.ofExpiry wheel.now node.expire = place := by
    rw [bucket_advanced, holds.bucket_eq]
  simp only [cascade]
  cases enters : Place.entered? (wheel.now + 1) with
  | none =>
    rw [before]
    refine List.filter_congr fun node member => ?_
    rw [Place.ofExpiry_add_one (holds.ahead node member) (by simp [enters])]
  | some entered =>
    simp only [bucket_spread, before]
    exact filter_spread holds.ahead enters place

/-- A timer added at a tick expires as many ticks later as its delay says, up to the longest. -/
theorem ahead_expiry (wheel : Wheel) (delay : UInt32) :
    ahead wheel.now (wheel.expiry delay) = min delay.toNat maxDelay.toNat := by
  rw [ahead, expiry, UInt32.add_comm, UInt32.add_sub_cancel, toNat_min]

theorem Holds.add {wheel : Wheel} {nodes : List Node} (holds : wheel.Holds nodes)
    (target : Handle) {delay : UInt32} (positive : delay ≠ 0) (session : Int32) :
    (wheel.add target delay session).Holds
      (nodes ++ [{ expire := wheel.expiry delay, target, session }]) where
  bucket_eq place := by
    have unchanged : ((wheel.add target delay session)).bucket place =
      (wheel.place { expire := wheel.expiry delay, target, session }).bucket place := by
      cases place <;> rfl
    rw [unchanged, bucket_place, holds.bucket_eq, List.filter_append]
    simp only [Wheel.add, now_place]
  ahead := by
    have later : Ahead wheel.now (wheel.expiry delay) := by
      have nonzero : delay.toNat ≠ 0 := fun zero => positive (UInt32.toNat_inj.1 zero)
      have longest : maxDelay.toNat = 4227858432 := rfl
      rw [Ahead, ahead_expiry]
      omega
    intro node member
    have unmoved : (wheel.add target delay session).now = wheel.now := now_place ..
    rw [unmoved]
    obtain member | added := List.mem_append.1 member
    · exact holds.ahead node member
    · rw [List.mem_singleton.1 added]
      exact later
  pending_eq := by simp [Wheel.add, holds.pending_eq]

/-- Of timers that wait, those that do not expire at the next tick go on waiting. -/
private theorem ahead_add_one {now expire : UInt32} (waits : Ahead now expire)
    (later : expire ≠ now + 1) : Ahead (now + 1) expire := by
  have bounds := waits.bounds
  have := now.toNat_lt
  have := expire.toNat_lt
  have longest : maxDelay.toNat = 4227858432 := rfl
  have apart : expire.toNat ≠ (now + 1).toNat := fun same => later (UInt32.toNat_inj.1 same)
  rw [toNat_add_one] at apart
  rw [Ahead, ahead_eq, toNat_add_one]
  omega

/-- A tick takes the timers that expire at it, in the order in which they were added, and leaves the
others where they belong. -/
theorem Holds.tick {wheel : Wheel} {nodes : List Node} (holds : wheel.Holds nodes) :
    wheel.tick.1 = nodes.filter (fun node => node.expire = wheel.now + 1) ∧
      wheel.tick.2.now = wheel.now + 1 ∧
        wheel.tick.2.Holds (nodes.filter fun node => node.expire ≠ wheel.now + 1) := by
  have expired : wheel.tick.1 = nodes.filter (fun node => node.expire = wheel.now + 1) := by
    simp only [Wheel.tick, holds.bucket_cascade, now_cascade, Place.ofExpiry_eq_nearOf_iff]
  have now_tick : wheel.tick.2.now = wheel.now + 1 := by simp [Wheel.tick]
  refine ⟨expired, now_tick, ?_, ?_, ?_⟩
  · intro place
    have left : wheel.tick.2.bucket place =
        if Place.nearOf (wheel.now + 1).toNat = place then []
        else nodes.filter fun node => Place.ofExpiry (wheel.now + 1) node.expire = place := by
      rw [← holds.bucket_cascade, ← bucket_emptied]
      simp only [Wheel.tick, now_cascade]
      cases place <;> rfl
    rw [left, now_tick, List.filter_filter]
    split
    · rename_i due
      subst due
      symm
      rw [List.filter_eq_nil_iff]
      intro node _
      simp only [Place.ofExpiry_eq_nearOf_iff, ne_eq, decide_not, Bool.and_eq_true, decide_eq_true_eq,
        Bool.not_eq_true', decide_eq_false_iff_not, and_not_self, not_false_eq_true]
    · rename_i other
      refine List.filter_congr fun node member => ?_
      rw [← Bool.decide_and, decide_eq_decide, iff_self_and]
      intro here due
      exact other ((Place.ofExpiry_eq_nearOf_iff.2 due).symm.trans here)
  · intro node member
    rw [List.mem_filter, decide_eq_true_eq] at member
    rw [now_tick]
    exact ahead_add_one (holds.ahead node member.1) member.2
  · have counted : wheel.tick.2.pending = wheel.pending - wheel.tick.1.length := by
      simp [Wheel.tick]
    have total := nodes.length_eq_countP_add_countP fun node => node.expire = wheel.now + 1
    rw [counted, expired, holds.pending_eq, ← List.countP_eq_length_filter,
      ← List.countP_eq_length_filter]
    simp only [ne_eq, decide_eq_true_eq] at total ⊢
    omega

end Wheel

end Mailroom.Timer
