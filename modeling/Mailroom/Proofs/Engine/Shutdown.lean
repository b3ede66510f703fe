import Mailroom.Proofs.Directory.Naming
import Mailroom.Proofs.Engine.Appends
import Mailroom.Proofs.Engine.Departures
/-! # What shutdown does

Whoever is live retires, and then the messages of the run queue become dead letters, mailbox by
mailbox and in order. As nobody is at work at a shutdown, there are no other messages.
-/

namespace Mailroom

variable {κ : Type}

/-! ### Emptying the run queue -/

namespace Exchange

variable {exchange after rest : Exchange} {number : Nat}

/-- The dead letters that the messages of a mailbox become at shutdown. -/
def stranded (exchange : Exchange) (number : Nat) : List (Option Nat × DeadLetter) :=
  (exchange.messages number).map fun message =>
    (some number, .ofMessage (exchange.handleOf number).text message .shuttingDown)

private theorem stranded_congr (messages : after.messages number = exchange.messages number)
    (handle : after.handleOf number = exchange.handleOf number) :
    after.stranded number = exchange.stranded number := by
  rw [stranded, messages, handle, ← stranded]

private theorem Still.stranded_eq (still : exchange.Still after) :
    after.stranded = exchange.stranded :=
  funext fun number => stranded_congr (still.messages number) (still.handleOf number)

private theorem stranded_of_next? (taken : exchange.next? = some (number, rest)) (other : Nat) :
    rest.stranded other = exchange.stranded other :=
  stranded_congr (messages_of_next? taken other) ((sameOwner_of_next? taken).handleOf_eq other)

/-- Who releases a mailbox gets all that is in it. -/
theorem fst_release (exchange : Exchange) (number : Nat) :
    (exchange.release number).1 = exchange.messages number := by
  cases found : exchange.box? number with
  | none => rw [release, settleBy_of_none found, messages, found, Option.map_none, Option.getD_none]
  | some box =>
    rw [release, settleBy_eq found, messages_eq found, Mailbox.release, Mailbox.returned_emptied]

private theorem waiting_release (exchange : Exchange) (number : Nat) :
    (exchange.release number).2.waiting = exchange.waiting := by
  cases found : exchange.box? number with
  | none => rw [release, settleBy_of_none found]
  | some box =>
    rw [release, settleBy_eq found, settle_eq]
    rfl

end Exchange

namespace Engine

variable {engine after : Engine κ} {box : Nat} {exchange : Exchange}

/-- Mailboxes are taken from the run queue at shutdown, and their messages become dead letters. -/
structure Drains (engine after : Engine κ) (boxes : List Nat) : Prop where
  waiting : engine.roster.exchange.waiting = boxes ++ after.roster.exchange.waiting
  letters : after.roster.letters =
    engine.roster.letters ++ boxes.flatMap engine.roster.exchange.stranded
  work : after.roster.work = engine.roster.work
  retirements : after.roster.retirements = engine.roster.retirements
  directory : after.roster.directory = engine.roster.directory
  stopping : after.stopping = engine.stopping

private theorem drains_dropWaiting (taken : engine.roster.exchange.next? = some (box, exchange)) :
    engine.Drains ((engine.taking exchange).dropWaiting box) [box] := by
  let handle := exchange.handleOf box
  let emptied := { engine.roster with exchange := (exchange.release box).2 }
  have result : ((engine.taking exchange).dropWaiting box).roster =
      emptied.dropAll box handle .shuttingDown (exchange.release box).1 := rfl
  have letters := emptied.letters_dropAll box handle .shuttingDown (exchange.release box).1
  rw [exchange.fst_release] at letters
  refine ⟨?_, ?_, ?_, ?_, ?_, rfl⟩
  · rw [result, Roster.dropAll_frame, (Exchange.next?_eq_some taken).1]
    exact congrArg (box :: ·) (exchange.waiting_release box).symm
  · rw [result, List.flatMap_singleton, ← Exchange.stranded_of_next? taken, exchange.fst_release]
    exact letters
  · rw [result]
    exact emptied.told_dropAll (fun _ _ _ => rfl) ..
  · rw [result]
    exact emptied.told_dropAll (fun _ _ _ => rfl) ..
  · rw [result, Roster.dropAll_frame]

/-- What becomes of one mailbox does not concern the others. -/
theorem stranded_dropWaiting (taken : engine.roster.exchange.next? = some (box, exchange))
    {other : Nat} (apart : other ≠ box) :
    ((engine.taking exchange).dropWaiting box).roster.exchange.stranded other =
      engine.roster.exchange.stranded other := by
  have frame := (engine.taking exchange).roster.settleBy_frame box (exchange.handleOf box)
    Exchange.release .shuttingDown
  rw [show ((engine.taking exchange).dropWaiting box).roster = _ from frame,
    ← Exchange.stranded_of_next? taken]
  exact Exchange.stranded_congr (Exchange.messages_settleBy_of_ne apart)
    ((exchange.sameOwner_release box).handleOf_eq other)

private theorem drains_drain (nodup : engine.roster.exchange.waiting.Nodup) (count : Nat) :
    engine.Drains (drain count engine) (engine.roster.exchange.waiting.take count) := by
  induction count generalizing engine with
  | zero => exact ⟨rfl, (List.append_nil _).symm, rfl, rfl, rfl, rfl⟩
  | succ count ih =>
    rw [drain]
    split
    · rename_i none
      rw [Exchange.next?_eq_none_iff.1 none]
      exact ⟨rfl, (List.append_nil _).symm, rfl, rfl, rfl, rfl⟩
    · rename_i box exchange taken
      let next := (engine.taking exchange).dropWaiting box
      have first : engine.Drains next [box] := drains_dropWaiting taken
      rw [first.waiting, List.singleton_append] at nodup
      obtain ⟨fresh, nodup⟩ := List.nodup_cons.1 nodup
      have second := ih nodup
      rw [first.waiting, List.singleton_append, List.take_succ_cons]
      refine ⟨?_, ?_, second.work.trans first.work, second.retirements.trans first.retirements,
        second.directory.trans first.directory, second.stopping.trans first.stopping⟩
      · rw [first.waiting, List.singleton_append, List.cons_append]
        exact congrArg (box :: ·) second.waiting
      · let boxes := next.roster.exchange.waiting.take count
        have same : boxes.flatMap next.roster.exchange.stranded =
            boxes.flatMap engine.roster.exchange.stranded := by
          apply List.flatMap_congr
          intro other member
          apply stranded_dropWaiting taken
          rintro rfl
          exact fresh (List.mem_of_mem_take member)
        rw [List.flatMap_cons, ← List.append_assoc, ← same]
        exact second.letters.trans (congrArg (· ++ _)
          (first.letters.trans (congrArg (_ ++ ·) (List.flatMap_singleton ..))))

/-- What is left of an engine that has been shut down. -/
structure Closed (engine : Engine κ) : Prop where
  stopping : engine.stopping = true
  running : engine.running = false
  vacant (handle : Handle) : engine.roster.find? handle = none
  unnamed (name : String) : engine.findName? name = none
  waiting : engine.roster.exchange.waiting = []

/-- Whoever is live retires, and every message becomes a dead letter. -/
structure Shuts (engine after : Engine κ) : Prop where
  letters : after.roster.letters = engine.roster.letters ++
    engine.roster.exchange.waiting.flatMap engine.roster.exchange.stranded
  work : after.roster.work = engine.roster.work
  retirements : after.roster.retirements =
    engine.roster.retirements ++ engine.roster.directory.handles

end Engine

namespace Roster

/-- A name is bound to somebody who is live. -/
theorem Move.named {start stop : Roster κ × List Nat} (named : start.1.directory.Named)
    (move : Move .any start stop) : stop.1.directory.Named := by
  cases move with
  | post live message => rwa [post_frame]
  | finish box => rwa [Roster.finish, settleBy_frame]
  | release gone reason => rwa [Roster.release, settleBy_frame]
  | markReleased gone => rwa [settleBy_frame]
  | @enroll roster hands module args behaviour capacity =>
    rw [enroll_eq]
    dsimp only
    split
    · exact named.register _
    · exact named.register _
  | unlist handle => exact named.retire handle
  | rename bound => exact named.bind bound
  | _ => exact named

private theorem Moves.named {start stop : Roster κ × List Nat} (named : start.1.directory.Named)
    (moves : Moves .any start stop) : stop.1.directory.Named := by
  induction moves with
  | refl => exact named
  | tail _ move ih => exact move.named ih

end Roster

private theorem Directory.Named.unnamed {directory : Directory Nat} (named : directory.Named)
    (vacant : ∀ handle, directory.find? handle = none) (name : String) :
    directory.findName? name = none := by
  rw [Option.eq_none_iff_forall_ne_some]
  intro handle bound
  have live := named.live name handle (named.findName?_eq_some_iff.1 bound)
  rw [Directory.contains, vacant handle] at live
  exact Bool.false_ne_true live

namespace Engine

variable {engine : Engine κ}

/-- A shutdown that finds nobody at work closes the engine. -/
theorem closed_shutdown (sound : engine.roster.Sound []) (named : engine.roster.directory.Named)
    (active : engine.stopping = false) : engine.shutdown.Closed ∧ engine.Shuts engine.shutdown := by
  let stopping := { engine with stopping := true }.note .stopping
  let handles := stopping.roster.directory.handles
  let retired := handles.foldl (fun engine handle => (engine.retire handle).2) stopping
  let drained := drain retired.roster.exchange.runQueue.length retired
  have result : engine.shutdown = { drained with running := false }.note .stopped := by
    rw [shutdown, active]
    rfl
  have begun : stopping.roster.Sound [] := sound.frame engine.roster.outlet _
  have live : ∀ handle ∈ handles, ∃ actor, stopping.roster.find? handle = some actor :=
    fun handle => (Directory.mem_handles_iff _ handle begun.placed).1
  have departs : stopping.roster.Departs retired.roster handles :=
    departs_foldl_retire begun begun.placed.nodup_handles live
  have steady : stopping.Steady .any retired := stopping.steady_foldl_retire handles
  have emptied : retired.roster.Sound [] := begun.moves (steady.roster.moves [])
  have drains : retired.Drains drained _ := drains_drain emptied.owned.nodup_waiting _
  -- the run queue is as long as it was when the last actor retired
  have whole : retired.roster.exchange.waiting.take retired.roster.exchange.runQueue.length =
      retired.roster.exchange.waiting := by
    rw [RunQueue.length, ← Queue.length_toList]
    exact List.take_length
  rw [whole] at drains
  have vacant (handle : Handle) : engine.shutdown.roster.find? handle = none := by
    rw [result]
    have same : drained.roster.find? handle = retired.roster.find? handle :=
      congrArg (·.find? handle) drains.directory
    exact same.trans (find?_retireAll begun.placed handle)
  have names : engine.shutdown.roster.directory.Named := by
    rw [result]
    have kept : retired.roster.directory.Named := (steady.roster.moves []).named named
    exact (drains.directory ▸ kept :)
  refine ⟨⟨?_, ?_, vacant, names.unnamed vacant, ?_⟩, ?_, ?_, ?_⟩
  · rw [result]
    exact drains.stopping.trans steady.stopping
  · rw [result]
    rfl
  · rw [result]
    exact (List.append_right_eq_self.1 drains.waiting.symm :)
  · rw [result]
    calc
      _ = drained.roster.letters := Roster.told_note_of_none _ rfl
      _ = retired.roster.letters ++
          retired.roster.exchange.waiting.flatMap retired.roster.exchange.stranded := drains.letters
      _ = stopping.roster.letters ++
          stopping.roster.exchange.waiting.flatMap stopping.roster.exchange.stranded := by
        rw [departs.letters, departs.still.waiting, departs.still.stranded_eq]
      _ = engine.roster.letters ++
          engine.roster.exchange.waiting.flatMap engine.roster.exchange.stranded :=
        congrArg (· ++ _) (Roster.told_note_of_none _ rfl)
  · have before : stopping.roster.work = engine.roster.work := Roster.told_note_of_none _ rfl
    rw [result, ← before, ← departs.work, ← drains.work]
    exact Roster.told_note_of_none _ rfl
  · have before : stopping.roster.retirements = engine.roster.retirements :=
      Roster.told_note_of_none _ rfl
    have after : drained.roster.retirements = engine.roster.retirements ++ handles := by
      rw [drains.retirements, departs.retirements, before]
    rw [result]
    exact (Roster.told_note_of_none _ rfl).trans after

end Engine

namespace Reachable

variable {config : Config} {modules : List (String × Module κ)} {machine : Machine κ}

theorem named (reached : Reachable config modules machine) :
    machine.engine.roster.directory.Named := by
  obtain ⟨engine, created, course⟩ := reached.course
  have start : engine.roster.directory.Named := by
    rw [Engine.roster_of_create created]
    let begun : Directory Nat := .ofCount config.handleSlots
    exact Directory.Named.start config.handleSlots begun.slots.cursor
  exact (Course.moves course (Engine.consistent_create created)).named start

end Reachable

end Mailroom
