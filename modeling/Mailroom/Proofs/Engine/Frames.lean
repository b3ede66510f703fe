import Mailroom.Roster
import Mailroom.Proofs.Directory.Placement
import Mailroom.Proofs.Exchange.Ownership
/-! # What the operations of a roster leave alone

Each operation of a roster is given with the fields that it changes. Everything else stays as it is,
and of those who are live only the one whose handle is issued or given up changes.
-/

namespace Mailroom

namespace Outlet

variable (outlet : Outlet)

/-- Recording a letter changes the buffer at most. -/
theorem record_frame (letter : DeadLetter) :
    (outlet.record letter).2 = { outlet with buffer := (outlet.record letter).2.buffer } := by
  unfold record
  split
  · rfl
  · split <;> rfl

theorem copies_record (letter : DeadLetter) : (outlet.record letter).2.copies = outlet.copies := by
  rw [record_frame]

theorem copies_subscribe (subscriber : Int) :
    (outlet.subscribe subscriber).copies = outlet.copies := by
  unfold subscribe
  split <;> rfl

end Outlet

namespace Roster

variable {κ : Type} (roster : Roster κ) (actor box : Nat) (handle other : Handle)

theorem dropAll_frame (reason : DropReason) (messages : List Message) :
    roster.dropAll box handle reason messages = { roster with
      outlet := (roster.dropAll box handle reason messages).outlet
      past := (roster.dropAll box handle reason messages).past } := by
  induction messages generalizing roster with
  | nil => rfl
  | cons message messages ih => exact ih (roster.drop (some box) handle.text reason message)

theorem settleBy_frame (operation : Exchange → Nat → List Message × Exchange)
    (reason : DropReason) :
    roster.settleBy operation reason box handle = { roster with
      exchange := (operation roster.exchange box).2
      outlet := (roster.settleBy operation reason box handle).outlet
      past := (roster.settleBy operation reason box handle).past } :=
  dropAll_frame { roster with exchange := (operation roster.exchange box).2 } ..

theorem post_frame (message : Message) :
    (roster.post box message).2 = { roster with
      exchange := (roster.exchange.post box message).2
      past := (roster.post box message).2.past } := by
  unfold post
  split <;> rename_i result <;> obtain ⟨_, rfl⟩ := Prod.mk.inj result <;> rfl

theorem destroy_frame :
    roster.destroy actor = { roster with
      exchange := (roster.exchange.markReleased actor).2
      outlet := (roster.destroy actor).outlet
      past := (roster.destroy actor).past } := by
  dsimp only [destroy]
  rw [settleBy_frame]
  rfl

/-- Destroying an actor changes neither the directory nor the actors. -/
theorem destroyUnlessHeld_frame :
    roster.destroyUnlessHeld actor = { roster with
      exchange := (roster.destroyUnlessHeld actor).exchange
      outlet := (roster.destroyUnlessHeld actor).outlet
      past := (roster.destroyUnlessHeld actor).past } := by
  unfold destroyUnlessHeld
  split
  · rfl
  · rw [destroy_frame]

theorem unlist_eq :
    roster.unlist handle =
      match roster.find? handle with
      | none => (false, roster)
      | some actor => (true, destroyUnlessHeld
          { roster with directory := (roster.directory.retire handle).2 } actor) := by
  have known := roster.directory.fst_retire handle
  unfold unlist overDirectory
  cases found : roster.find? handle with
  | none =>
    dsimp only
    rw [roster.directory.retire_of_find?_eq_none handle found]
  | some actor =>
    rw [show roster.directory.find? handle = some actor from found] at known
    simp only [known]

theorem unlist_frame :
    (roster.unlist handle).2 = { roster with
      directory := (roster.directory.retire handle).2
      exchange := (roster.unlist handle).2.exchange
      outlet := (roster.unlist handle).2.outlet
      past := (roster.unlist handle).2.past } := by
  unfold unlist
  split <;> rename_i result <;> obtain ⟨_, rfl⟩ := Prod.mk.inj result
  · rfl
  · rw [destroyUnlessHeld_frame]
    rfl

/-- Adding an actor adds one to the actors, the mailboxes and the live ones, if a handle is left. -/
theorem enroll_eq (module args : String) (behaviour : Instance κ) (capacity : Nat) :
    roster.enroll module args behaviour capacity =
      let issued := roster.directory.register roster.actors.size
      match issued.1 with
      | none => (none, { roster with directory := issued.2 })
      | some handle => (some roster.actors.size, { roster with
        directory := issued.2
        actors := roster.actors.push
          { handle, module, args, behaviour, callback := none, lastSession := 0, guests := 1 }
        exchange := roster.exchange.add handle capacity
        outlet := roster.outlet.copy }) := by
  unfold enroll overDirectory
  rcases issued : roster.directory.register roster.actors.size with ⟨_ | handle, directory⟩ <;>
    simp only [issued]

theorem enroll_of_issued {roster : Roster κ} {handle : Handle} (module args : String)
    (behaviour : Instance κ) (capacity : Nat)
    (issued : (roster.directory.register roster.actors.size).1 = some handle) :
    roster.enroll module args behaviour capacity = (some roster.actors.size, { roster with
      directory := (roster.directory.register roster.actors.size).2
      actors := roster.actors.push
        { handle, module, args, behaviour, callback := none, lastSession := 0, guests := 1 }
      exchange := roster.exchange.add handle capacity
      outlet := roster.outlet.copy }) := by
  simp only [enroll_eq, issued]

theorem enroll_of_none {roster : Roster κ} (module args : String) (behaviour : Instance κ)
    (capacity : Nat) (issued : (roster.directory.register roster.actors.size).1 = none) :
    roster.enroll module args behaviour capacity =
      (none, { roster with directory := (roster.directory.register roster.actors.size).2 }) := by
  simp only [enroll_eq, issued]

theorem past_enroll (module args : String) (behaviour : Instance κ) (capacity : Nat) :
    (roster.enroll module args behaviour capacity).2.past = roster.past := by
  rw [enroll_eq]
  dsimp only
  split <;> rfl

/-! ### Handles -/

/-- The handle of an actor, if there is such an actor. -/
def handle? (number : Nat) : Option Handle := (roster.actor? number).map (·.handle)

theorem handleOf_eq (number : Nat) :
    roster.handleOf number = (roster.handle? number).getD default := rfl

theorem handle?_size : roster.handle? roster.actors.size = none := by
  rw [handle?, actor?, Array.getElem?_eq_none (Nat.le_refl _)]
  rfl

theorem handle?_modify {change : Actor κ → Actor κ}
    (keeps : ∀ found, (change found).handle = found.handle) (number : Nat) :
    (roster.modify actor change).handle? number = roster.handle? number := by
  simp only [handle?, actor?, modify, Array.getElem?_modify]
  split
  · simp [Function.comp_def, keeps]
  · rfl

theorem handle?_enrolled {grown : Roster κ} {added : Actor κ}
    (pushed : grown.actors = roster.actors.push added) (number : Nat) :
    grown.handle? number =
      if number = roster.actors.size then some added.handle else roster.handle? number := by
  simp only [handle?, actor?, pushed, Array.getElem?_push]
  split <;> rfl

theorem find?_unlist :
    (roster.unlist handle).2.find? other =
      if other = handle then none else roster.find? other := by
  rw [find?, unlist_frame]
  exact roster.directory.find?_retire handle other

/-- Who is taken out of the directory is not live. -/
theorem isLive_unlist_self :
    (roster.unlist (roster.handleOf actor)).2.isLive actor = false := by
  have same : (roster.unlist (roster.handleOf actor)).2.handleOf actor = roster.handleOf actor := by
    rw [unlist_frame]
    rfl
  rw [isLive, same, find?_unlist, if_pos rfl]
  rfl

theorem find?_letGo : (roster.letGo actor).find? other = roster.find? other := by
  rw [letGo, destroyUnlessHeld_frame]
  rfl

theorem find?_retire :
    (roster.retire handle).2.find? other =
      if other = handle then none else roster.find? other := by
  unfold retire
  split
  · rename_i absent
    split
    · rename_i same
      rw [same, absent]
    · rfl
  · exact (find?_letGo ..).trans (find?_unlist ..)

end Roster

end Mailroom
