import Mailroom.Engine.Request
import Mailroom.Proofs.Timer.Ledger
import Mathlib.Algebra.Ring.Nat
/-! # Readings of the clock

Several callers read the clock and catch up with what they read, and a slow one may come with a
reading that is behind. A reading counts by what it is ahead of all before it, so that the ticks
applied in the end are those of the greatest reading, one advance for each.
-/

namespace Mailroom.Timer

/-- By how much each reading is ahead of the greatest before it, when so many ticks are applied
already. -/
def leads : Nat → List Nat → List Nat
  | _, [] => []
  | applied, reading :: readings => (reading - applied) :: leads (max applied reading) readings

private theorem getElem?_leads (applied : Nat) (readings : List Nat) (index : Nat) :
    (leads applied readings)[index]? =
      readings[index]?.map (· - (readings.take index).foldl max applied) := by
  induction readings generalizing applied index with
  | nil => rfl
  | cons reading readings ih =>
    cases index with
    | zero => rfl
    | succ index => exact ih ..

private theorem le_foldl_max (applied : Nat) (readings : List Nat) :
    applied ≤ readings.foldl max applied := by
  induction readings generalizing applied with
  | nil => exact Nat.le_refl _
  | cons reading readings ih => exact Nat.le_trans (Nat.le_max_left ..) (ih _)

/-- The leads make up the way from the first ticks to the greatest reading. -/
theorem sum_leads (applied : Nat) (readings : List Nat) :
    (leads applied readings).sum = readings.foldl max applied - applied := by
  induction readings generalizing applied with
  | nil => exact (Nat.sub_self _).symm
  | cons reading readings ih =>
    have greater := le_foldl_max (max applied reading) readings
    rw [leads, List.sum_cons, ih, List.foldl_cons]
    omega

/-- The timer after other readings of the clock. -/
def withApplied (timer : Timer) (applied : Nat) : Timer := { timer with applied }

@[simp] theorem now_tick (timer : Timer) : timer.tick.2.now = timer.now + 1 := by
  simp [tick, now, Wheel.tick]

/-! ### A timer and who it delivers to -/

/-- What is asked of a timer: a step, or to catch up with a reading of the clock. -/
inductive Call where
  | step (step : Step)
  | update (reading : Nat)
deriving DecidableEq, Repr

/-- The readings among calls. -/
def readingsOf (calls : List Call) : List Nat :=
  calls.filterMap fun
    | .step _ => none
    | .update reading => some reading

/-- The steps that calls come to: each reading is one advance for each tick that it is ahead. -/
def stepsOf : Nat → List Call → List Step
  | _, [] => []
  | applied, .step step :: calls => step :: stepsOf applied calls
  | applied, .update reading :: calls =>
    List.replicate (reading - applied) .advance ++ stepsOf (max applied reading) calls

private theorem count_stepsOf (applied : Nat) (calls : List Call) :
    (stepsOf applied calls).count .advance =
      calls.count (.step .advance) + ((readingsOf calls).foldl max applied - applied) := by
  induction calls generalizing applied with
  | nil => simp [stepsOf, readingsOf]
  | cons call calls ih =>
    cases call with
    | step step =>
      have same : (step == .advance) = (Call.step step == .step .advance) := by
        cases step <;> rfl
      rw [stepsOf, List.count_cons, List.count_cons, ih, same]
      simp only [readingsOf, List.filterMap_cons]
      omega
    | update reading =>
      have greater := le_foldl_max (max applied reading) (readingsOf calls)
      have other : (Call.update reading == .step .advance) = false := rfl
      rw [stepsOf, List.count_append, List.count_replicate_self, ih, List.count_cons, other]
      simp only [readingsOf, List.filterMap_cons, List.foldl_cons] at greater ⊢
      split <;> simp_all; omega

private theorem stepsOf_updates (applied : Nat) (readings : List Nat) :
    stepsOf applied (readings.map .update) =
      .replicate (readings.foldl max applied - applied) .advance := by
  induction readings generalizing applied with
  | nil => simp [stepsOf]
  | cons reading readings ih =>
    have greater := le_foldl_max (max applied reading) readings
    rw [List.map_cons, stepsOf, ih, List.replicate_append_replicate, List.foldl_cons]
    congr 1
    omega

namespace Station

variable (receivers : Receivers) (fuel : Nat) (station : Station)

/-- Answers calls in order, and returns the ticks that were applied for each reading. -/
def calls? : List Call → Station → Option (List Nat × Station)
  | [], station => some ([], station)
  | .step step :: calls, station => (station.step? receivers fuel step).bind (calls? calls)
  | .update reading :: calls, station =>
    (station.update? receivers fuel reading).bind fun (count, station) =>
      (calls? calls station).map (Prod.map (count :: ·) id)

def withApplied (applied : Nat) : Station :=
  { station with timer := station.timer.withApplied applied }

/-! What happens at a timer does not depend on the readings so far. -/

private theorem perform_withApplied (applied : Nat) (item : Item) :
    (station.withApplied applied).perform receivers item =
      ((station.perform receivers item).1.withApplied applied,
        (station.perform receivers item).2) := by
  cases item with
  | ask request =>
    simp only [perform]
    split <;> rfl
  | expiry node => rfl

private theorem work?_withApplied (applied : Nat) (items : List Item) :
    work? receivers fuel (station.withApplied applied) items =
      (work? receivers fuel station items).map (·.withApplied applied) := by
  induction fuel generalizing station items with
  | zero => cases items <;> rfl
  | succ fuel ih =>
    cases items with
    | nil => rfl
    | cons item rest =>
      simp only [work?, perform_withApplied]
      exact ih ..

private theorem step?_withApplied (applied : Nat) (step : Step) :
    (station.withApplied applied).step? receivers fuel step =
      (station.step? receivers fuel step).map (·.withApplied applied) := by
  cases step with
  | timeout request => exact work?_withApplied ..
  | advance =>
    exact work?_withApplied receivers fuel { station with timer := station.timer.tick.2 } ..

private theorem run?_withApplied (applied : Nat) (steps : List Step) :
    (station.withApplied applied).run? receivers fuel steps =
      (station.run? receivers fuel steps).map (·.withApplied applied) := by
  induction steps generalizing station with
  | nil => rfl
  | cons step steps ih =>
    simp only [run?, List.foldlM_cons, step?_withApplied] at ih ⊢
    cases station.step? receivers fuel step with
    | none => rfl
    | some middle => exact ih middle

variable {receivers fuel station} {after : Station}

private theorem applied_run? {steps : List Step}
    (ran : station.run? receivers fuel steps = some after) :
    after.timer.applied = station.timer.applied := by
  have same := station.run?_withApplied receivers fuel station.timer.applied steps
  have whole : station.withApplied station.timer.applied = station := rfl
  rw [whole, ran, Option.map_some] at same
  exact congrArg (·.timer.applied) (Option.some.inj same)

theorem run?_append (steps more : List Step) :
    station.run? receivers fuel (steps ++ more) =
      (station.run? receivers fuel steps).bind (run? receivers fuel · more) :=
  List.foldlM_append

private theorem advanceBy?_eq_run? (count : Nat) :
    advanceBy? receivers fuel count station =
      station.run? receivers fuel (.replicate count .advance) := by
  induction count generalizing station with
  | zero => rfl
  | succ count ih =>
    rw [advanceBy?, List.replicate_succ, run?, List.foldlM_cons]
    exact congrArg _ (funext fun _ => ih)

private theorem update?_eq (reading : Nat) :
    station.update? receivers fuel reading =
      (station.run? receivers fuel
          (.replicate (reading - station.timer.applied) .advance)).map fun after =>
        (reading - station.timer.applied,
          after.withApplied (max station.timer.applied reading)) := by
  have observed := run?_withApplied receivers fuel station (max station.timer.applied reading)
    (.replicate (reading - station.timer.applied) .advance)
  rw [← advanceBy?_eq_run?] at observed
  rw [update?]
  simp only [observe]
  exact (congrArg _ observed).trans (Option.map_map ..)

/-- Calls come to their steps, and each reading is told what it was ahead. -/
theorem calls?_eq_run? (calls : List Call) :
    calls? receivers fuel calls station =
      (station.run? receivers fuel (stepsOf station.timer.applied calls)).map fun after =>
        (leads station.timer.applied (readingsOf calls),
          after.withApplied ((readingsOf calls).foldl max station.timer.applied)) := by
  induction calls generalizing station with
  | nil => rfl
  | cons call calls ih =>
    cases call with
    | step step =>
      rw [calls?, stepsOf, run?, List.foldlM_cons]
      cases stepped : station.step? receivers fuel step with
      | none => rfl
      | some middle =>
        have ran : station.run? receivers fuel [step] = some middle := by
          rw [run?, List.foldlM_cons, stepped]
          rfl
        have kept : middle.timer.applied = station.timer.applied := applied_run? ran
        rw [← kept]
        exact ih
    | update reading =>
      rw [calls?, stepsOf, update?_eq, run?_append]
      cases ran : station.run? receivers fuel
          (.replicate (reading - station.timer.applied) .advance) with
      | none => rfl
      | some middle =>
        dsimp only [Option.map_some, Option.bind_some]
        rw [ih, run?_withApplied, Option.map_map, Option.map_map]
        rfl

private theorem now_perform (item : Item) :
    (station.perform receivers item).1.timer.now = station.timer.now := by
  cases item with
  | ask request =>
    simp only [perform]
    split
    · rfl
    · exact Wheel.now_place ..
  | expiry node => rfl

private theorem now_work? {items : List Item}
    (worked : work? receivers fuel station items = some after) :
    after.timer.now = station.timer.now := by
  induction fuel generalizing station items with
  | zero =>
    cases items with
    | nil => exact congrArg (·.timer.now) (Option.some.inj worked).symm
    | cons item rest => cases worked
  | succ fuel ih =>
    cases items with
    | nil => exact congrArg (·.timer.now) (Option.some.inj worked).symm
    | cons item rest => exact (ih worked).trans (now_perform item)

/-- The current tick moves by one for each advance. -/
theorem now_run? {steps : List Step} (ran : station.run? receivers fuel steps = some after) :
    after.timer.now = station.timer.now + .ofNat (steps.count .advance) := by
  induction steps generalizing station with
  | nil => obtain rfl := Option.some.inj ran; simp
  | cons step steps ih =>
    obtain ⟨middle, stepped, rest⟩ := Option.bind_eq_some_iff.1 ran
    rw [ih rest]
    cases step with
    | timeout request => rw [now_work? stepped, List.count_cons_of_ne (by simp)]
    | advance =>
      have ticked : middle.timer.now = station.timer.now + 1 :=
        (now_work? stepped).trans (now_tick _)
      rw [ticked, List.count_cons_self, UInt32.add_assoc, Nat.add_comm, UInt32.ofNat_add]
      rfl

end Station

end Mailroom.Timer

namespace Mailroom.Engine

variable {κ : Type} (engine : Engine κ)

/-! ### An engine

A delivery does not look at the timer, nor change it. -/

private theorem deliver_withTimer (timer : Timer) (target : Handle) (message : Message) :
    deliver { engine with timer } target message =
      Prod.map id ({ · with timer }) (engine.deliver target message) := by
  obtain ⟨config, catalog, roster, earlier, lastSession, stopping, running, completed⟩ := engine
  cases stopping with
  | true => rfl
  | false =>
    simp only [deliver, Bool.false_eq_true, if_false]
    cases roster.find? target with
    | none => rfl
    | some actor =>
      dsimp only [overRoster]
      cases (roster.post actor message).1 <;> rfl

private theorem expire_withTimer (timer : Timer) (node : Timer.Node) :
    expire { engine with timer } node = { engine.expire node with timer } :=
  congrArg Prod.snd (deliver_withTimer (engine.note _) timer node.target (.expiry node.session))

private theorem foldl_expire_withTimer (timer : Timer) (nodes : List Timer.Node) :
    nodes.foldl expire { engine with timer } = { nodes.foldl expire engine with timer } := by
  induction nodes generalizing engine with
  | nil => rfl
  | cons node nodes ih =>
    rw [List.foldl_cons, expire_withTimer]
    exact ih _

/-- The engine after other readings of the clock. -/
def withApplied (applied : Nat) : Engine κ :=
  { engine with timer := engine.timer.withApplied applied }

private theorem advance_eq :
    engine.advance =
      { engine.timer.tick.1.foldl expire engine with timer := engine.timer.tick.2 } :=
  foldl_expire_withTimer ..

private theorem advance_withApplied (applied : Nat) :
    (engine.withApplied applied).advance = engine.advance.withApplied applied := by
  rw [advance_eq engine]
  exact foldl_expire_withTimer engine (engine.timer.tick.2.withApplied applied) engine.timer.tick.1

private theorem advanceBy_withApplied (applied count : Nat) :
    advanceBy count (engine.withApplied applied) =
      (advanceBy count engine).withApplied applied := by
  induction count generalizing engine with
  | zero => rfl
  | succ count ih =>
    rw [advanceBy, advance_withApplied]
    exact ih _

private theorem advanceBy_add (first second : Nat) :
    advanceBy (first + second) engine = advanceBy second (advanceBy first engine) := by
  induction first generalizing engine with
  | zero => rw [Nat.zero_add]; rfl
  | succ first ih =>
    rw [Nat.add_right_comm]
    exact ih _

private theorem now_advanceBy (count : Nat) :
    (advanceBy count engine).now = engine.now + .ofNat count := by
  induction count generalizing engine with
  | zero => simp [advanceBy]
  | succ count ih =>
    rw [advanceBy, ih, now, advance_eq, Timer.now_tick, UInt32.add_assoc, Nat.add_comm,
      UInt32.ofNat_add]
    rfl

private theorem updateTime_eq (reading : Nat) :
    engine.updateTime reading = (reading - engine.timer.applied,
      (advanceBy (reading - engine.timer.applied) engine).withApplied
        (max engine.timer.applied reading)) :=
  congrArg (Prod.mk _) (engine.advanceBy_withApplied (max engine.timer.applied reading) _)

private theorem performAll?_advance (fuel count : Nat) :
    performAll? fuel (.replicate count .advance) engine =
      some (.replicate count .done, advanceBy count engine) := by
  induction count generalizing engine with
  | zero => rfl
  | succ count ih =>
    rw [List.replicate_succ, performAll?, perform?]
    dsimp only [Option.bind_eq_bind, Option.bind_some]
    rw [ih]
    rfl

private theorem performAll?_updateTime (fuel : Nat) (readings : List Nat) :
    performAll? fuel (readings.map .updateTime) engine =
      some ((Timer.leads engine.timer.applied readings).map .count,
        (advanceBy (readings.foldl max engine.timer.applied - engine.timer.applied)
          engine).withApplied (readings.foldl max engine.timer.applied)) := by
  induction readings generalizing engine with
  | nil => simp [performAll?, Timer.leads, advanceBy, withApplied, Timer.withApplied]
  | cons reading readings ih =>
    have greater := Timer.le_foldl_max (max engine.timer.applied reading) readings
    have way : readings.foldl max (max engine.timer.applied reading) - engine.timer.applied =
        (reading - engine.timer.applied) +
          (readings.foldl max (max engine.timer.applied reading) -
            max engine.timer.applied reading) := by
      omega
    rw [List.map_cons, performAll?, perform?, updateTime_eq]
    dsimp only [Option.bind_eq_bind, Option.bind_some, Prod.map]
    rw [id, ih]
    dsimp only [Option.bind_some]
    rw [List.foldl_cons, way, advanceBy_add, advanceBy_withApplied]
    rfl

end Mailroom.Engine

namespace Mailroom.Timer

/-- Each tick of the clock is applied once, as one advance. Readings may come in any order: each is
told what it is ahead of the greatest before it, and together they make up the way to the greatest.
A timer does the same as with an advance for each of these ticks, whatever is asked of it between
the readings and whatever receivers ask for, and so does an engine. -/
theorem ticks_are_applied_once :
    (∀ (receivers : Receivers) (fuel : Nat) (station : Station) (calls : List Call),
      let applied := station.timer.applied
      let greatest := (readingsOf calls).foldl max applied
      Station.calls? receivers fuel calls station =
          (station.run? receivers fuel (stepsOf applied calls)).map (fun after =>
            (leads applied (readingsOf calls), after.withApplied greatest)) ∧
        (station.run? receivers fuel (stepsOf applied calls)).map (·.timer.now) =
          (station.run? receivers fuel (stepsOf applied calls)).map fun _ =>
            station.timer.now +
              .ofNat (calls.count (.step .advance) + (greatest - applied))) ∧
    (∀ (κ : Type) (fuel : Nat) (engine : Engine κ) (readings : List Nat),
      let applied := engine.timer.applied
      let greatest := readings.foldl max applied
      ∃ after,
        Engine.performAll? fuel (.replicate (greatest - applied) .advance) engine =
            some (.replicate (greatest - applied) .done, after) ∧
          Engine.performAll? fuel (readings.map .updateTime) engine =
            some ((leads applied readings).map .count, after.withApplied greatest) ∧
          after.now = engine.now + .ofNat (greatest - applied)) ∧
    ∀ (applied : Nat) (readings : List Nat),
      (∀ index, (leads applied readings)[index]? =
        readings[index]?.map (· - (readings.take index).foldl max applied)) ∧
      (leads applied readings).sum = readings.foldl max applied - applied ∧
      stepsOf applied (readings.map .update) =
        .replicate (readings.foldl max applied - applied) .advance := by
  refine ⟨fun receivers fuel station calls => ⟨Station.calls?_eq_run? calls, ?_⟩,
    fun κ fuel engine readings => ?_, fun applied readings => ?_⟩
  · refine Option.map_congr fun after ran => ?_
    rw [Station.now_run? ran, count_stepsOf]
  · exact ⟨_, engine.performAll?_advance fuel _, engine.performAll?_updateTime fuel readings,
      engine.now_advanceBy _⟩
  · exact ⟨getElem?_leads applied readings, sum_leads applied readings,
      stepsOf_updates applied readings⟩

/-- A reading that is behind applies nothing. -/
example : leads 0 [3, 1, 4, 4, 2] = [3, 0, 1, 0, 0] := by decide

end Mailroom.Timer
