import Mailroom.Handle
/-! # The timer wheel

Timers wait in buckets. The near buckets are single ticks of the 256-tick block of the current tick.
Four coarser tiers have 64 buckets each, of 2^8, 2^14, 2^20 and 2^26 ticks; a timer waits in the
finest tier whose whole span, the block that the next tier has as one bucket, holds both its expiry
and the current tick. When the current tick enters a coarse bucket, the timers in it move to finer
tiers.

Ticks are 32-bit numbers and wrap. An expiry past the wrap waits in bucket 0 of the coarsest tier,
which the current tick enters when it wraps itself; delays stay below the full circle by one such
bucket, so that bucket 0 never mixes two rounds.
-/

namespace Mailroom.Timer

/-- What a timer has to deliver, to whom, and at which tick. -/
structure Node where
  expire : UInt32
  target : Handle
  session : Int32
deriving DecidableEq, Repr

/-- The longest delay, in ticks. Longer ones are cut down to it. -/
def maxDelay : UInt32 := 4227858432

/-- A bucket of the wheel. -/
inductive Place where
  | near (slot : Fin 256)
  | coarse (tier : Fin 4) (slot : Fin 64)
deriving DecidableEq, Repr

namespace Place

/-- The near bucket of a tick. -/
def nearOf (tick : Nat) : Place := near (Fin.ofNat 256 tick)

/-- The bucket that an expiry belongs in at the current tick. -/
def ofExpiry (now expire : UInt32) : Place :=
  let tick := now.toNat
  let due := expire.toNat
  if due / 256 = tick / 256 then nearOf due
  else if due / 16384 = tick / 16384 then coarse 0 (Fin.ofNat 64 (due / 256))
  else if due / 1048576 = tick / 1048576 then coarse 1 (Fin.ofNat 64 (due / 16384))
  else if due / 67108864 = tick / 67108864 then coarse 2 (Fin.ofNat 64 (due / 1048576))
  else coarse 3 (Fin.ofNat 64 (due / 67108864))

/-- The coarse bucket that a tick enters, if it is the first tick of one. Of buckets that begin
together it is the one of the finest tier in which the bucket's number is not zero. -/
def entered? (now : UInt32) : Option Place :=
  let tick := now.toNat
  if tick % 256 ≠ 0 then none
  else if tick / 256 % 64 ≠ 0 then some (coarse 0 (Fin.ofNat 64 (tick / 256)))
  else if tick / 16384 % 64 ≠ 0 then some (coarse 1 (Fin.ofNat 64 (tick / 16384)))
  else if tick / 1048576 % 64 ≠ 0 then some (coarse 2 (Fin.ofNat 64 (tick / 1048576)))
  else some (coarse 3 (Fin.ofNat 64 (tick / 67108864)))

end Place

/-- The buckets, each with its newest timer first, and the current tick. -/
structure Wheel where
  now : UInt32
  near : Vector (List Node) 256
  coarse : Vector (Vector (List Node) 64) 4
  pending : Nat

namespace Wheel

/-- An empty wheel at a tick. -/
def startingAt (now : UInt32) : Wheel where
  now
  near := .replicate 256 []
  coarse := .replicate 4 (.replicate 64 [])
  pending := 0

/-- The timers of a bucket, newest first. -/
def newest (wheel : Wheel) : Place → List Node
  | .near slot => wheel.near[slot]
  | .coarse tier slot => wheel.coarse[tier][slot]

/-- The timers of a bucket in the order they were added. -/
def bucket (wheel : Wheel) (place : Place) : List Node := (wheel.newest place).reverse

/-- Replaces the timers of one bucket by others, newest first. -/
def withNewest (wheel : Wheel) (nodes : List Node) : Place → Wheel
  | .near slot => { wheel with near := wheel.near.set slot nodes }
  | .coarse tier slot =>
    { wheel with coarse := wheel.coarse.set tier (wheel.coarse[tier].set slot nodes) }

theorem newest_withNewest (wheel : Wheel) (nodes : List Node) (place other : Place) :
    (wheel.withNewest nodes place).newest other =
      if place = other then nodes else wheel.newest other := by
  cases place with
  | near slot =>
    cases other with
    | near slot' => simp [withNewest, newest, Vector.getElem_set, Fin.ext_iff]
    | coarse tier slot' => simp [withNewest, newest]
  | coarse tier slot =>
    cases other with
    | near slot' => simp [withNewest, newest]
    | coarse tier' slot' =>
      by_cases same : tier = tier'
      · subst same
        simp [withNewest, newest, Vector.getElem_set, Fin.ext_iff]
      · have apart : (tier : Nat) ≠ tier' := fun eq => same (Fin.ext eq)
        simp [withNewest, newest, Fin.ext_iff, apart]

@[simp] theorem now_withNewest (wheel : Wheel) (nodes : List Node) (place : Place) :
    (wheel.withNewest nodes place).now = wheel.now := by
  cases place <;> rfl

@[simp] theorem pending_withNewest (wheel : Wheel) (nodes : List Node) (place : Place) :
    (wheel.withNewest nodes place).pending = wheel.pending := by
  cases place <;> rfl

/-- Takes the timers out of a bucket. -/
def emptied (wheel : Wheel) (place : Place) : Wheel := wheel.withNewest [] place

theorem bucket_emptied (wheel : Wheel) (place other : Place) :
    (wheel.emptied place).bucket other = if place = other then [] else wheel.bucket other := by
  rw [bucket, emptied, newest_withNewest]
  split <;> rfl

/-- Puts a timer behind the others of a bucket. -/
def append (wheel : Wheel) (node : Node) (place : Place) : Wheel :=
  wheel.withNewest (node :: wheel.newest place) place

theorem bucket_append (wheel : Wheel) (node : Node) (place other : Place) :
    (wheel.append node place).bucket other =
      if place = other then wheel.bucket place ++ [node] else wheel.bucket other := by
  rw [bucket, append, newest_withNewest]
  split <;> simp [bucket]

/-- Puts a timer into the bucket that it belongs in at the current tick. -/
def place (wheel : Wheel) (node : Node) : Wheel :=
  wheel.append node (Place.ofExpiry wheel.now node.expire)

/-- The tick at which a timer added now expires. -/
def expiry (wheel : Wheel) (delay : UInt32) : UInt32 := wheel.now + min delay maxDelay

/-- Adds a timer. Its delay is at least one tick. -/
def add (wheel : Wheel) (target : Handle) (delay : UInt32) (session : Int32) : Wheel :=
  let placed := wheel.place { expire := wheel.expiry delay, target, session }
  { placed with pending := placed.pending + 1 }

/-- Moves the timers of a bucket to where they belong at the current tick. -/
def spread (wheel : Wheel) (place : Place) : Wheel :=
  (wheel.bucket place).foldl Wheel.place (wheel.emptied place)

/-- Moves the timers of the bucket that the current tick enters. -/
def cascade (wheel : Wheel) : Wheel :=
  match Place.entered? wheel.now with
  | none => wheel
  | some place => wheel.spread place

/-- Advances by one tick and takes the timers that expire at it. -/
def tick (wheel : Wheel) : List Node × Wheel :=
  let advanced := cascade { wheel with now := wheel.now + 1 }
  let due := Place.nearOf advanced.now.toNat
  let expired := advanced.bucket due
  let left := advanced.emptied due
  (expired, { left with pending := left.pending - expired.length })

end Wheel

end Mailroom.Timer
