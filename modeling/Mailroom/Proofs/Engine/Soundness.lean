import Mailroom.Proofs.Engine.Frames
import Mailroom.Proofs.Engine.Moves
import Mailroom.Proofs.Exchange.Operations
/-! # What every move keeps

Mailboxes and those who have them in hands are in step, an actor and its mailbox have one handle, and
whoever is found by a handle has that handle and a mailbox that is not released.
-/

namespace Mailroom.Roster

variable {κ : Type} {roster after : Roster κ} {hands left : List Nat} {number : Nat}

structure Sound (roster : Roster κ) (hands : List Nat) : Prop where
  owned : roster.exchange.Owned hands
  sizes : roster.exchange.boxes.size = roster.actors.size
  same (number : Nat) : roster.exchange.handle? number = roster.handle? number
  placed : roster.directory.slots.Placed
  listed {handle : Handle} {number : Nat} (live : roster.find? handle = some number) :
    roster.handle? number = some handle
  accepting {handle : Handle} {number : Nat} (live : roster.find? handle = some number) :
    roster.exchange.isReleased number = false

theorem sound_ofSizes (slots room capacity : Nat) :
    (ofSizes slots room capacity : Roster κ).Sound [] where
  owned := Exchange.owned_ofRoom room
  sizes := rfl
  same _ := rfl
  placed := Directory.Slots.placed_ofCount slots
  listed live := nomatch (Directory.find?_ofCount _ slots).symm.trans live
  accepting live := nomatch (Directory.find?_ofCount _ slots).symm.trans live

/-- Nobody finds an actor that its own handle does not find. -/
theorem Sound.find?_ne (sound : roster.Sound hands) (gone : roster.isLive number = false)
    (handle : Handle) : roster.find? handle ≠ some number := by
  intro live
  have own : roster.handleOf number = handle := by
    rw [handleOf_eq, sound.listed live, Option.getD_some]
  rw [isLive, own, live] at gone
  simp at gone

theorem Sound.handle?_eq_handleOf (sound : roster.Sound hands) {box : Mailbox}
    (found : roster.exchange.box? number = some box) :
    roster.handle? number = some (roster.handleOf number) := by
  have same := sound.same number
  rw [Exchange.handle?, found] at same
  rw [handleOf_eq, ← same]
  rfl

/-- A roster is sound after a change of its exchange that changes no owner and releases nobody who is
live. -/
theorem Sound.over (sound : roster.Sound hands) (directory : after.directory = roster.directory)
    (actors : after.actors = roster.actors) (same : roster.exchange.SameOwner after.exchange)
    (owned : after.exchange.Owned left)
    (releases : ∀ handle number, roster.find? handle = some number →
      after.exchange.isReleased number = roster.exchange.isReleased number) :
    after.Sound left where
  owned := owned
  sizes := by rw [same.1, actors, sound.sizes]
  same number := by rw [same.2, sound.same, handle?, handle?, actor?, actor?, actors]
  placed := directory ▸ sound.placed
  listed live := by
    rw [find?, directory] at live
    rw [handle?, actor?, actors]
    exact sound.listed live
  accepting live := by
    rw [find?, directory] at live
    rw [releases _ _ live]
    exact sound.accepting live

/-- Events and the outlet do not matter. -/
theorem Sound.frame (sound : roster.Sound hands) (outlet : Outlet) (past : List Event) :
    Sound { roster with outlet, past } hands :=
  sound.over rfl rfl ⟨rfl, fun _ => rfl⟩ sound.owned fun _ _ _ => rfl

private theorem Sound.settleBy (sound : roster.Sound hands)
    {operation : Exchange → Nat → List Message × Exchange} (reason : DropReason) (box : Nat)
    (same : roster.exchange.SameOwner (operation roster.exchange box).2)
    (owned : (operation roster.exchange box).2.Owned left)
    (releases : ∀ handle number, roster.find? handle = some number →
      (operation roster.exchange box).2.isReleased number = roster.exchange.isReleased number) :
    (roster.settleBy operation reason box (roster.handleOf box)).Sound left := by
  rw [settleBy_frame]
  exact sound.over rfl rfl same owned releases

/-- An operation that releases one mailbox releases nobody who is live if its actor is gone. -/
theorem Sound.releases_of_gone (sound : roster.Sound hands) {box : Nat}
    (gone : roster.isLive box = false) {operation : Mailbox → Settlement} (handle : Handle)
    (number : Nat) (live : roster.find? handle = some number) :
    (Exchange.settleBy operation roster.exchange box).2.isReleased number =
      roster.exchange.isReleased number := by
  apply Exchange.isReleased_settleBy_of_ne
  rintro rfl
  exact sound.find?_ne gone handle live

private theorem Sound.enroll (sound : roster.Sound hands) (module args : String)
    (behaviour : Instance κ) (capacity : Nat) :
    (roster.enroll module args behaviour capacity).2.Sound
      ((roster.enroll module args behaviour capacity).1.toList ++ hands) := by
  obtain ⟨placed, finds⟩ := sound.placed.register roster.actors.size
  rw [enroll_eq]
  dsimp only [Directory.fst_register]
  split <;> rename_i issued <;> rw [issued] at finds
  · exact {
      owned := sound.owned
      sizes := sound.sizes
      same := sound.same
      placed := placed
      listed := fun live => sound.listed ((finds _).symm.trans live)
      accepting := fun live => sound.accepting ((finds _).symm.trans live) }
  · rename_i handle
    obtain ⟨_, _, finds⟩ := finds
    have owned := sound.owned.add handle capacity
    rw [sound.sizes] at owned
    have known {other : Handle} {number : Nat} (live : roster.find? other = some number) :
        number ≠ roster.actors.size := by
      rintro rfl
      exact nomatch roster.handle?_size.symm.trans (sound.listed live)
    refine ⟨owned, ?_, fun number => ?_, placed, fun {other number} live => ?_,
      fun {other number} live => ?_⟩
    · simp only [Exchange.add, Array.size_push, sound.sizes]
    · rw [Exchange.handle?_add, handle?_enrolled roster rfl, sound.sizes, sound.same]
    · have live := (finds other).symm.trans live
      rw [handle?_enrolled roster rfl]
      split at live
      · rename_i same
        rw [if_pos (Option.some.inj live).symm, same]
      · rw [if_neg (known live)]
        exact sound.listed live
    · have live := (finds other).symm.trans live
      rw [Exchange.isReleased_add, sound.sizes]
      split at live
      · rw [if_pos (Option.some.inj live).symm]
      · rw [if_neg (known live)]
        exact sound.accepting live

theorem Sound.unlist (sound : roster.Sound hands) (handle : Handle) :
    (roster.overDirectory (·.retire handle)).2.Sound hands := by
  have finds {other : Handle} {number : Nat}
      (live : (roster.directory.retire handle).2.find? other = some number) :
      roster.find? other = some number := by
    rw [Directory.find?_retire] at live
    split at live
    · exact nomatch live
    · exact live
  exact {
    owned := sound.owned
    sizes := sound.sizes
    same := sound.same
    placed := (roster.directory.slots_retire handle).symm ▸ sound.placed.retire handle
    listed := fun live => sound.listed (finds live)
    accepting := fun live => sound.accepting (finds live) }

theorem Sound.modify (sound : roster.Sound hands) (actor : Nat) {change : Actor κ → Actor κ}
    (keeps : ∀ found, (change found).handle = found.handle) :
    (roster.modify actor change).Sound hands where
  owned := sound.owned
  sizes := sound.sizes.trans Array.size_modify.symm
  same number := (sound.same number).trans (roster.handle?_modify actor keeps number).symm
  placed := sound.placed
  listed live := (roster.handle?_modify actor keeps _).trans (sound.listed live)
  accepting live := sound.accepting live

/-- Who has a mailbox in hands takes a message out of it. -/
theorem Sound.take (sound : roster.Sound hands) {exchange : Exchange} {message : Option Message}
    (taken : roster.exchange.take number = (message, exchange)) (held : number ∈ hands) :
    Sound { roster with exchange } hands := by
  obtain rfl : (roster.exchange.take number).2 = exchange := by rw [taken]
  exact sound.over rfl rfl (Exchange.sameOwner_take ..) (sound.owned.take held)
    fun _ _ _ => Exchange.isReleased_take ..

/-- Every move keeps a roster sound. -/
theorem Sound.move (sound : roster.Sound hands) (move : Move .any (roster, hands) (after, left)) :
    after.Sound left := by
  cases move with
  | note event silent => exact sound.frame _ _
  | refuse destination reason message => exact sound.frame _ _
  | post live message =>
    rw [post_frame]
    exact sound.over rfl rfl (Exchange.sameOwner_post ..) (sound.owned.post ..)
      fun _ _ _ => Exchange.isReleased_post ..
  | finish box =>
    exact sound.settleBy _ box (Exchange.sameOwner_finish ..) sound.owned.finish
      fun _ _ _ => Exchange.isReleased_finish ..
  | release gone reason =>
    exact sound.settleBy _ _ (Exchange.sameOwner_release ..) sound.owned.release
      (sound.releases_of_gone gone)
  | markReleased gone =>
    exact sound.settleBy _ _ (Exchange.sameOwner_markReleased ..) (sound.owned.markReleased _)
      (sound.releases_of_gone gone)
  | next allowed taken =>
    exact sound.over rfl rfl (Exchange.sameOwner_of_next? taken) (sound.owned.next taken)
      fun _ _ _ => Exchange.isReleased_of_next? taken _
  | invoke taken belongs has => exact (sound.take taken List.mem_cons_self).frame _ _
  | skip taken => exact (sound.take taken List.mem_cons_self).frame _ _
  | enroll module args behaviour capacity => exact sound.enroll ..
  | unlist handle => exact sound.unlist handle
  | rename bound =>
    exact ⟨sound.owned, sound.sizes, sound.same, sound.placed, sound.listed, sound.accepting⟩
  | modify actor keeps counts serves => exact sound.modify actor keeps
  | outlet outlet => exact sound.frame _ _

theorem Sound.moves {start stop : Roster κ × List Nat} (sound : start.1.Sound start.2)
    (moves : Moves .any start stop) : stop.1.Sound stop.2 := by
  induction moves with
  | refl => exact sound
  | tail _ move ih => exact ih.move move

end Mailroom.Roster
