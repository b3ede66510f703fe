import Mailroom.Proofs.Timer.Placement
import Mailroom.Timer.Station
import Mathlib.Data.List.Basic
/-! # Timers as a list of countdowns

A ledger writes down every timeout that is asked for, in order, with the number of the advance it is
due at, and crosses nothing out. It has no buckets and its advances do not wrap. A station does what
a ledger says: the same events in the same order, whatever the receivers ask for, from any tick on
and across the wrap of the tick counter.
-/

namespace Mailroom.Timer

/-- What is done to a timer from outside. -/
inductive Step where
  | timeout (request : Request)
  | advance
deriving DecidableEq, Repr

namespace Station

/-- A station with nothing to deliver, at a tick. -/
def startingAt (start : UInt32) (tickLength : Nat) : Station :=
  { timer := .startingAt start tickLength, past := [] }

def step? (receivers : Receivers) (fuel : Nat) (station : Station) : Step → Option Station
  | .timeout request => station.timeout? receivers fuel request
  | .advance => station.advance? receivers fuel

/-- Takes steps in order; nothing if the fuel does not last for one of them. -/
def run? (receivers : Receivers) (fuel : Nat) (station : Station) (steps : List Step) :
    Option Station :=
  steps.foldlM (step? receivers fuel) station

end Station

/-- A timeout that was asked for, with the advance it is due at, counted from the start. -/
structure Entry where
  due : Nat
  target : Handle
  session : Int32
deriving DecidableEq, Repr

/-- Every timeout that was asked for with a delay, the first one in front, and what has happened. -/
structure Ledger where
  start : UInt32
  advances : Nat
  entries : List Entry
  past : List Event

namespace Ledger

def startingAt (start : UInt32) : Ledger := { start, advances := 0, entries := [], past := [] }

def now (ledger : Ledger) : UInt32 := ledger.start + .ofNat ledger.advances

/-- The countdowns that are left, in the order in which they were added. -/
def waiting (ledger : Ledger) : List Entry := ledger.entries.filter (ledger.advances < ·.due)

/-- What falls due at an advance, in the order in which it was added. -/
def dueAt (ledger : Ledger) (advance : Nat) : List Entry :=
  ledger.entries.filter (·.due = advance)

/-- The timer that stands for an entry. -/
def node (ledger : Ledger) (entry : Entry) : Node where
  expire := ledger.start + .ofNat entry.due
  target := entry.target
  session := entry.session

def note (ledger : Ledger) (event : Event) : Ledger := { ledger with past := event :: ledger.past }

/-- Writes down a timeout. It is due after as many advances as its delay says, up to the longest. -/
def enter (ledger : Ledger) (request : Request) : Ledger :=
  { ledger with entries := ledger.entries ++
      [{ due := ledger.advances + min request.delay.toNat maxDelay.toNat
         target := request.target
         session := request.session }] }

def deliver (receivers : Receivers) (ledger : Ledger) (target : Handle) (session : Int32) :
    Ledger × List Item :=
  let ledger := ledger.note (.delivered ledger.now target session)
  (ledger, (receivers ledger.past).map .ask)

/-- Does one item of the work at hand. A timeout without delay is delivered and not written down. -/
def perform (receivers : Receivers) (ledger : Ledger) : Item → Ledger × List Item
  | .ask request =>
    if request.delay = 0 then ledger.deliver receivers request.target request.session
    else
      let expire := ledger.now + min request.delay maxDelay
      ((ledger.enter request).note (.added request.target request.session expire), [])
  | .expiry node =>
    (ledger.note (.expired node.target node.session)).deliver receivers node.target node.session

def work? (receivers : Receivers) : Nat → Ledger → List Item → Option Ledger
  | _, ledger, [] => some ledger
  | 0, _, _ :: _ => none
  | fuel + 1, ledger, item :: rest =>
    let (ledger, more) := ledger.perform receivers item
    work? receivers fuel ledger (more ++ rest)

/-- Takes a step. An advance delivers what is due at it and nothing else. -/
def step? (receivers : Receivers) (fuel : Nat) (ledger : Ledger) : Step → Option Ledger
  | .timeout request => work? receivers fuel ledger [.ask request]
  | .advance =>
    let advance := ledger.advances + 1
    work? receivers fuel { ledger with advances := advance }
      ((ledger.dueAt advance).map fun entry => .expiry (ledger.node entry))

def run? (receivers : Receivers) (fuel : Nat) (ledger : Ledger) (steps : List Step) :
    Option Ledger :=
  steps.foldlM (step? receivers fuel) ledger

/-! ### A station and its ledger -/

/-- A station that is where its ledger says it is: its wheel holds the countdowns that are left, and
the same things have happened. -/
structure Describes (ledger : Ledger) (station : Station) : Prop where
  now_eq : station.timer.now = ledger.now
  past_eq : station.past = ledger.past
  holds : station.timer.wheel.Holds (ledger.waiting.map ledger.node)
  within : ∀ entry ∈ ledger.entries, entry.due ≤ ledger.advances + maxDelay.toNat

variable {ledger : Ledger} {station : Station}

private theorem describes_startingAt (start : UInt32) (tickLength : Nat) :
    (startingAt start).Describes (.startingAt start tickLength) where
  now_eq := by simp [startingAt, now, Station.startingAt, Timer.startingAt, Timer.now,
    Wheel.startingAt]
  past_eq := rfl
  holds := Wheel.holds_startingAt start
  within := by simp [startingAt]

private theorem Describes.note (describes : ledger.Describes station) (event : Event) :
    (ledger.note event).Describes (station.note event) where
  now_eq := describes.now_eq
  past_eq := congrArg (event :: ·) describes.past_eq
  holds := describes.holds
  within := describes.within

private theorem Describes.deliver (describes : ledger.Describes station) (receivers : Receivers)
    (target : Handle) (session : Int32) :
    (ledger.deliver receivers target session).1.Describes
        (station.deliver receivers target session).1 ∧
      (ledger.deliver receivers target session).2 =
        (station.deliver receivers target session).2 := by
  have noted := describes.note (.delivered ledger.now target session)
  simp only [Ledger.deliver, Station.deliver, describes.now_eq, noted.past_eq]
  exact ⟨noted, trivial⟩

/-- Behind the countdowns that wait stands the one that is entered. -/
theorem waiting_enter (ledger : Ledger) {request : Request} (positive : request.delay ≠ 0) :
    (ledger.enter request).waiting = ledger.waiting ++
      [{ due := ledger.advances + min request.delay.toNat maxDelay.toNat
         target := request.target
         session := request.session }] := by
  have nonzero : request.delay.toNat ≠ 0 := fun zero => positive (UInt32.toNat_inj.1 zero)
  have longest : maxDelay.toNat = 4227858432 := rfl
  have later : ledger.advances < ledger.advances + min request.delay.toNat maxDelay.toNat := by
    omega
  simp only [waiting, enter, List.filter_append, List.filter_cons, later, decide_true, if_true,
    List.filter_nil]
  rfl

/-- A timeout that is entered becomes a timer of the wheel. -/
theorem Describes.enter (describes : ledger.Describes station) {request : Request}
    (positive : request.delay ≠ 0) :
    (ledger.enter request).Describes
      { station with timer := station.timer.add request.target request.delay request.session } where
  now_eq := (Wheel.now_place ..).trans describes.now_eq
  past_eq := describes.past_eq
  holds := by
    have expiry : station.timer.wheel.expiry request.delay =
        ledger.start + .ofNat (ledger.advances + min request.delay.toNat maxDelay.toNat) := by
      have now_eq : station.timer.wheel.now = ledger.start + .ofNat ledger.advances :=
        describes.now_eq
      rw [Wheel.expiry, now_eq, UInt32.ofNat_add, ← toNat_min, UInt32.ofNat_toNat,
        UInt32.add_assoc]
    have held := describes.holds.add request.target positive request.session
    rw [waiting_enter ledger positive, List.map_append]
    rw [expiry] at held
    exact held
  within := by
    intro entry member
    obtain member | added := List.mem_append.1 member
    · exact describes.within entry member
    · rw [List.mem_singleton.1 added]
      exact Nat.add_le_add_left (Nat.min_le_right ..) _

theorem Describes.perform (describes : ledger.Describes station) (receivers : Receivers)
    (item : Item) :
    (ledger.perform receivers item).1.Describes (station.perform receivers item).1 ∧
      (ledger.perform receivers item).2 = (station.perform receivers item).2 := by
  cases item with
  | ask request =>
    simp only [Ledger.perform, Station.perform]
    split
    · exact describes.deliver ..
    · rename_i positive
      have expiry : station.timer.wheel.expiry request.delay =
          ledger.now + min request.delay maxDelay := by
        rw [Wheel.expiry, ← describes.now_eq]; rfl
      rw [expiry]
      exact ⟨(describes.enter positive).note _, rfl⟩
  | expiry node => exact (describes.note _).deliver ..

/-- Two runs that both run out or both end, in a ledger and the station that it describes. -/
theorem Describes.work (describes : ledger.Describes station) (receivers : Receivers) (fuel : Nat)
    (items : List Item) :
    Option.Rel Describes (work? receivers fuel ledger items)
      (Station.work? receivers fuel station items) := by
  induction fuel generalizing ledger station items with
  | zero =>
    cases items with
    | nil => exact .some describes
    | cons item rest => exact .none
  | succ fuel ih =>
    cases items with
    | nil => exact .some describes
    | cons item rest =>
      obtain ⟨after, more⟩ := describes.perform receivers item
      simp only [work?, Station.work?, ← more]
      exact ih after _

/-- Of the countdowns that wait, those whose timers expire at the next tick are due at the next
advance. -/
theorem expire_node_iff {entry : Entry} (within : entry.due ≤ ledger.advances + maxDelay.toNat)
    (waits : ledger.advances < entry.due) :
    (ledger.node entry).expire = ledger.now + 1 ↔ entry.due = ledger.advances + 1 := by
  have longest : maxDelay.toNat = 4227858432 := rfl
  have one : (1 : UInt32) = .ofNat 1 := rfl
  rw [node, now, UInt32.add_assoc, one, ← UInt32.ofNat_add, UInt32.add_right_inj,
    ← UInt32.toNat_inj, UInt32.toNat_ofNat', UInt32.toNat_ofNat']
  omega

/-- An advance of the wheel takes what the ledger has due at it. -/
theorem Describes.tick (describes : ledger.Describes station) :
    station.timer.tick.1 = (ledger.dueAt (ledger.advances + 1)).map ledger.node ∧
      Describes { ledger with advances := ledger.advances + 1 }
        { station with timer := station.timer.tick.2 } := by
  have now_eq : station.timer.wheel.now = ledger.now := describes.now_eq
  obtain ⟨expired, advanced, held⟩ := describes.holds.tick
  rw [now_eq] at expired advanced held
  refine ⟨?_, ?_, describes.past_eq, ?_, ?_⟩
  · change station.timer.wheel.tick.1 = _
    rw [expired, List.filter_map, waiting, List.filter_filter, dueAt]
    congr 1
    refine List.filter_congr fun entry member => ?_
    have within := describes.within entry member
    rw [Function.comp, ← Bool.decide_and, decide_eq_decide]
    constructor
    · rintro ⟨expires, waits⟩
      exact (expire_node_iff within waits).1 expires
    · intro due
      have waits : ledger.advances < entry.due := by omega
      exact ⟨(expire_node_iff within waits).2 due, waits⟩
  · exact advanced.trans (by simp only [now, UInt32.ofNat_add, UInt32.add_assoc]; rfl)
  · have left : Ledger.waiting { ledger with advances := ledger.advances + 1 } =
        ledger.waiting.filter fun entry => (ledger.node entry).expire ≠ ledger.now + 1 := by
      rw [waiting, waiting, List.filter_filter]
      refine List.filter_congr fun entry member => ?_
      rw [← Bool.decide_and, decide_eq_decide]
      change ledger.advances + 1 < entry.due ↔ _
      have within := describes.within entry member
      constructor
      · intro later
        have waits : ledger.advances < entry.due := by omega
        refine ⟨fun expires => ?_, waits⟩
        have := (expire_node_iff within waits).1 expires
        omega
      · rintro ⟨stays, waits⟩
        have := mt (expire_node_iff within waits).2 stays
        omega
    rw [left]
    rw [List.filter_map] at held
    exact held
  · intro entry member
    have := describes.within entry member
    dsimp only
    omega

theorem Describes.step (describes : ledger.Describes station) (receivers : Receivers) (fuel : Nat)
    (step : Step) :
    Option.Rel Describes (ledger.step? receivers fuel step)
      (station.step? receivers fuel step) := by
  cases step with
  | timeout request => exact describes.work ..
  | advance =>
    obtain ⟨expired, after⟩ := describes.tick
    have worked := after.work receivers fuel
      ((ledger.dueAt (ledger.advances + 1)).map fun entry => .expiry (ledger.node entry))
    simp only [step?, Station.step?, Station.advance?, expired, List.map_map]
    exact worked

theorem Describes.run (describes : ledger.Describes station) (receivers : Receivers) (fuel : Nat)
    (steps : List Step) :
    Option.Rel Describes (ledger.run? receivers fuel steps)
      (station.run? receivers fuel steps) := by
  induction steps generalizing ledger station with
  | nil => exact .some describes
  | cons step steps ih =>
    have stepped := describes.step receivers fuel step
    simp only [run?, Station.run?, List.foldlM_cons]
    revert stepped
    generalize ledger.step? receivers fuel step = entered
    generalize station.step? receivers fuel step = placed
    intro stepped
    cases stepped with
    | none => exact .none
    | some after => exact ih after

end Ledger

/-! ### What has expired by an advance -/

/-- Who was delivered to because a timer expired, and on which session. -/
def Event.expiration? : Event → Option (Handle × Int32)
  | .added _ _ _ => none
  | .expired target session => some (target, session)
  | .delivered _ _ _ => none

/-- The expirations of a past, the first one in front. -/
def expirations (past : List Event) : List (Handle × Int32) :=
  past.reverse.filterMap Event.expiration?

/-- The expiration that an item of work stands for. -/
def Item.expiration? : Item → Option (Handle × Int32)
  | .ask _ => none
  | .expiry node => some (node.target, node.session)

private theorem expirations_cons (event : Event) (past : List Event) :
    expirations (event :: past) = expirations past ++ event.expiration?.toList := by
  rw [expirations, List.reverse_cons, List.filterMap_append]
  cases happened : event.expiration? <;> simp [expirations, happened]

namespace Ledger

variable {ledger after : Ledger}

/-- What has expired by an advance: every timeout that was due by then, once, in the order of the
advances they were due at and for each advance in the order they were added. -/
def expired (ledger : Ledger) (advances : Nat) : List (Handle × Int32) :=
  (List.range advances).flatMap fun earlier =>
    (ledger.dueAt (earlier + 1)).map fun entry => (entry.target, entry.session)

/-- A ledger to which timeouts were added that are due at later advances. -/
structure Extends (ledger after : Ledger) : Prop where
  start_eq : after.start = ledger.start
  advances_eq : after.advances = ledger.advances
  added : ∃ added, after.entries = ledger.entries ++ added ∧
    ∀ entry ∈ added, ledger.advances < entry.due

theorem Extends.refl (ledger : Ledger) : ledger.Extends ledger :=
  ⟨rfl, rfl, [], (List.append_nil _).symm, by simp⟩

theorem Extends.trans {middle : Ledger} (first : ledger.Extends middle)
    (second : middle.Extends after) : ledger.Extends after := by
  obtain ⟨some, entries, later⟩ := first.added
  obtain ⟨more, entries', later'⟩ := second.added
  refine ⟨second.start_eq.trans first.start_eq, second.advances_eq.trans first.advances_eq,
    some ++ more, by rw [entries', entries, List.append_assoc], ?_⟩
  intro entry member
  obtain member | member := List.mem_append.1 member
  · exact later entry member
  · exact first.advances_eq ▸ later' entry member

/-- What is added later changes nothing of what was due before. -/
theorem Extends.dueAt_eq (extend : ledger.Extends after) {advance : Nat}
    (bound : advance ≤ ledger.advances) : after.dueAt advance = ledger.dueAt advance := by
  obtain ⟨added, entries, later⟩ := extend.added
  have none_due : added.filter (·.due = advance) = [] := by
    simp only [List.filter_eq_nil_iff, decide_eq_true_eq]
    intro entry member
    have := later entry member
    omega
  rw [dueAt, entries, List.filter_append, none_due, List.append_nil, dueAt]

private theorem Extends.expired_eq (extend : ledger.Extends after) :
    after.expired ledger.advances = ledger.expired ledger.advances := by
  refine List.flatMap_congr fun earlier member => ?_
  rw [extend.dueAt_eq (List.mem_range.1 member)]

private theorem extends_deliver (ledger : Ledger) (receivers : Receivers) (target : Handle)
    (session : Int32) :
    ledger.Extends (ledger.deliver receivers target session).1 :=
  ⟨rfl, rfl, [], (List.append_nil _).symm, by simp⟩

private theorem extends_perform (ledger : Ledger) (receivers : Receivers) (item : Item) :
    ledger.Extends (ledger.perform receivers item).1 := by
  cases item with
  | ask request =>
    simp only [perform]
    split
    · exact extends_deliver ..
    · rename_i positive
      refine ⟨rfl, rfl, _, rfl, ?_⟩
      have nonzero : request.delay.toNat ≠ 0 := fun zero => positive (UInt32.toNat_inj.1 zero)
      have longest : maxDelay.toNat = 4227858432 := rfl
      simp only [List.mem_singleton, forall_eq]
      omega
  | expiry node => exact ⟨rfl, rfl, [], (List.append_nil _).symm, by simp⟩

/-- An item of work adds its own expiration, and asks for no other. -/
theorem expirations_perform (ledger : Ledger) (receivers : Receivers) (item : Item) :
    expirations (ledger.perform receivers item).1.past =
        expirations ledger.past ++ item.expiration?.toList ∧
      (ledger.perform receivers item).2.filterMap Item.expiration? = [] := by
  have asks (requests : List Request) :
      (requests.map Item.ask).filterMap Item.expiration? = [] := by
    simp [Item.expiration?]
  cases item with
  | ask request =>
    simp only [perform]
    split
    · simp [deliver, note, expirations_cons, Event.expiration?, Item.expiration?, asks]
    · simp [enter, note, expirations_cons, Event.expiration?, Item.expiration?]
  | expiry node =>
    simp [perform, deliver, note, expirations_cons, Event.expiration?, Item.expiration?, asks]

private theorem work?_extends {receivers : Receivers} {fuel : Nat} {items : List Item}
    (worked : work? receivers fuel ledger items = some after) :
    ledger.Extends after ∧ expirations after.past =
      expirations ledger.past ++ items.filterMap Item.expiration? := by
  induction fuel generalizing ledger items with
  | zero =>
    cases items with
    | nil => obtain rfl := Option.some.inj worked; exact ⟨.refl _, by simp⟩
    | cons item rest => cases worked
  | succ fuel ih =>
    cases items with
    | nil => obtain rfl := Option.some.inj worked; exact ⟨.refl _, by simp⟩
    | cons item rest =>
      change work? receivers fuel (ledger.perform receivers item).1
        ((ledger.perform receivers item).2 ++ rest) = some after at worked
      obtain ⟨added, asked⟩ := expirations_perform ledger receivers item
      obtain ⟨extend, happened⟩ := ih worked
      refine ⟨(extends_perform ledger receivers item).trans extend, ?_⟩
      rw [happened, added, List.filterMap_append, asked, List.nil_append, List.append_assoc]
      cases expires : item.expiration? <;> simp [expires]

/-- A ledger whose expirations so far are all that was due, and nothing else. -/
def Punctual (ledger : Ledger) : Prop :=
  expirations ledger.past = ledger.expired ledger.advances

theorem Punctual.step (punctual : ledger.Punctual) {receivers : Receivers} {fuel : Nat}
    {step : Step}
    (stepped : ledger.step? receivers fuel step = some after) :
    after.Punctual ∧ after.start = ledger.start ∧
      after.advances = ledger.advances + [step].count .advance := by
  cases step with
  | timeout request =>
    obtain ⟨extend, happened⟩ := work?_extends stepped
    refine ⟨?_, extend.start_eq, extend.advances_eq⟩
    rw [Punctual, happened, extend.advances_eq, extend.expired_eq, punctual]
    simp [Item.expiration?]
  | advance =>
    obtain ⟨extend, happened⟩ := work?_extends stepped
    refine ⟨?_, extend.start_eq, extend.advances_eq⟩
    have before : expirations ledger.past = expired ledger ledger.advances := punctual
    rw [Punctual, happened, extend.advances_eq, extend.expired_eq, before]
    simp only [expired, List.range_succ, List.flatMap_append, List.flatMap_singleton]
    simp [Function.comp_def, Item.expiration?, node, dueAt]

theorem Punctual.run (punctual : ledger.Punctual) {receivers : Receivers} {fuel : Nat}
    {steps : List Step}
    (ran : ledger.run? receivers fuel steps = some after) :
    after.Punctual ∧ after.start = ledger.start ∧
      after.advances = ledger.advances + steps.count .advance := by
  induction steps generalizing ledger with
  | nil => obtain rfl := Option.some.inj ran; exact ⟨punctual, rfl, rfl⟩
  | cons step steps ih =>
    obtain ⟨middle, stepped, rest⟩ := Option.bind_eq_some_iff.1 ran
    obtain ⟨kept, start, advanced⟩ := punctual.step stepped
    obtain ⟨kept', start', advanced'⟩ := ih kept rest
    refine ⟨kept', start'.trans start, ?_⟩
    rw [advanced', advanced, Nat.add_assoc, ← List.count_append, List.singleton_append]

end Ledger

/-- A timer from any start tick does what a plain list of countdowns does: the same events in the
same order. After any number of advances the current tick is that many ticks past the start, what
waits is what is due later, and what has expired is every timeout that was due by then, once and in
order. -/
theorem run?_eq_ledger (receivers : Receivers) (fuel : Nat) (start : UInt32) (tickLength : Nat)
    (steps : List Step) :
    ((Station.startingAt start tickLength).run? receivers fuel steps).map Station.past =
        ((Ledger.startingAt start).run? receivers fuel steps).map Ledger.past ∧
      ((Station.startingAt start tickLength).run? receivers fuel steps).map
          (fun station => (station.timer.now, station.timer.pending, expirations station.past)) =
        ((Ledger.startingAt start).run? receivers fuel steps).map fun ledger =>
          let advances := steps.count .advance
          (start + .ofNat advances, (ledger.entries.filter (advances < ·.due)).length,
            ledger.expired advances) := by
  have ran := (Ledger.describes_startingAt start tickLength).run receivers fuel steps
  cases entered : (Ledger.startingAt start).run? receivers fuel steps with
  | none =>
    rw [entered] at ran
    cases placed : (Station.startingAt start tickLength).run? receivers fuel steps with
    | none => exact ⟨rfl, rfl⟩
    | some station => rw [placed] at ran; cases ran
  | some ledger =>
    rw [entered] at ran
    cases placed : (Station.startingAt start tickLength).run? receivers fuel steps with
    | none => rw [placed] at ran; cases ran
    | some station =>
      rw [placed] at ran
      cases ran with
      | some describes =>
        have started : (Ledger.startingAt start).Punctual := rfl
        obtain ⟨punctual, start_eq, advances_eq⟩ := started.run entered
        have counted : ledger.advances = steps.count .advance := by
          rw [advances_eq]; exact Nat.zero_add _
        have now_eq : station.timer.now = start + .ofNat (steps.count .advance) := by
          rw [describes.now_eq, Ledger.now, start_eq, counted]; rfl
        have pending_eq : station.timer.pending =
            (ledger.entries.filter (steps.count .advance < ·.due)).length := by
          rw [Timer.pending, describes.holds.pending_eq, List.length_map, Ledger.waiting, counted]
        have expirations_eq : expirations station.past = ledger.expired (steps.count .advance) := by
          rw [describes.past_eq, punctual, counted]
        refine ⟨congrArg some describes.past_eq, congrArg some ?_⟩
        dsimp only
        rw [now_eq, pending_eq, expirations_eq]

end Mailroom.Timer
