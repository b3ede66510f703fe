import Mailroom.Proofs.Directory.History
import Mathlib.Algebra.Order.Floor.Div
import Mathlib.Data.Nat.ModEq
/-! # When a handle is issued again

The cursor goes around the circle of the handles that are not zero, and each registration moves it
on by no more handles than there are slots. So the same handle comes up again only when the cursor
has gone all the way around, which takes as many registrations as it takes slots to cover the
circle.
-/

namespace Mailroom.Directory

variable {α : Type} {directory : Directory α} {handle : Handle} {most : Nat}

namespace Slots

variable {slots : Slots α}

/-- A candidate that is free is met before as many were tried as there are slots. -/
theorem exists_offset_of_probe {candidate : UInt32} {count : Nat}
    (found : slots.probe candidate count = some handle) :
    ∃ offset < count, handle.raw = candidate + UInt32.ofNat offset := by
  induction count generalizing candidate with
  | zero => exact nomatch found
  | succ count ih =>
    rw [probe_succ] at found
    split at found
    · obtain rfl := Option.some.inj found
      exact ⟨0, Nat.succ_pos count, (UInt32.add_zero candidate).symm⟩
    · obtain ⟨offset, within, reached⟩ := ih found
      refine ⟨offset + 1, Nat.succ_lt_succ within, ?_⟩
      rw [reached, UInt32.ofNat_add, UInt32.add_comm (UInt32.ofNat offset), UInt32.add_assoc]
      rfl

/-- Doubling leaves the cursor where it is, so the candidates are tried anew from there. -/
theorem exists_offset_of_vacateWithin {doublings : Nat}
    (found : (slots.vacateWithin doublings).1 = some handle) :
    ∃ offset < (slots.vacateWithin doublings).2.capacity,
      handle.raw = slots.cursor + UInt32.ofNat offset := by
  induction doublings generalizing slots with
  | zero => exact exists_offset_of_probe found
  | succ doublings ih =>
    rw [vacateWithin] at found ⊢
    split at found
    · rename_i vacant
      exact exists_offset_of_probe (vacant.trans found)
    · exact ih found

/-- Handles run out only when there is a slot for each of them. -/
theorem bits_of_vacateWithin_eq_none {doublings : Nat}
    (exhausted : (slots.vacateWithin doublings).1 = none) :
    (slots.vacateWithin doublings).2.bits = slots.bits + doublings := by
  induction doublings generalizing slots with
  | zero => rfl
  | succ doublings ih =>
    rw [vacateWithin] at exhausted ⊢
    split at exhausted
    · cases exhausted
    · rw [ih exhausted]
      change slots.bits + 1 + doublings = slots.bits + (doublings + 1)
      omega

/-- Behind the last handle of all the cursor goes on with one. -/
theorem toNat_cursorAfter (handle : Handle) :
    (cursorAfter handle).toNat =
      if handle.raw.toNat + 1 = 2 ^ 32 then 1 else handle.raw.toNat + 1 := by
  have small := handle.raw.toNat_lt
  have next : (handle.raw + 1).toNat = (handle.raw.toNat + 1) % 2 ^ 32 := UInt32.toNat_add ..
  unfold cursorAfter
  split
  · rename_i last
    have zero : (handle.raw + 1).toNat = 0 := congrArg UInt32.toNat last
    rw [if_pos (by omega)]
    rfl
  · rename_i inner
    have positive : (handle.raw + 1).toNat ≠ 0 := fun zero => inner (UInt32.toNat_inj.1 zero)
    rw [if_neg (by omega)]
    omega

theorem register_of_vacate {occupant : α} (issued : (slots.register occupant).1 = some handle) :
    slots.vacate.1 = some handle ∧
      (slots.register occupant).2.capacity = slots.vacate.2.capacity ∧
      (slots.register occupant).2.cursor = cursorAfter handle := by
  unfold register at issued ⊢
  split at issued
  · exact nomatch issued
  · rename_i vacated
    obtain rfl := Option.some.inj issued
    rw [vacated]
    exact ⟨rfl, rfl, rfl⟩

/-- With slots for half of the handles at most, a handle is issued. -/
theorem exists_handle_of_capacity_le {occupant : α}
    (few : (slots.register occupant).2.capacity ≤ 2 ^ 31) :
    ∃ handle, (slots.register occupant).1 = some handle := by
  apply Option.ne_none_iff_exists'.1
  intro refused
  have exhausted : slots.vacate.1 = none ∧
      (slots.register occupant).2.capacity = slots.vacate.2.capacity := by
    unfold register at refused ⊢
    split at refused
    · rename_i vacated
      rw [vacated]
      exact ⟨rfl, rfl⟩
    · exact nomatch refused
  have bits := bits_of_vacateWithin_eq_none exhausted.1
  have whole : 2 ^ 32 ≤ slots.vacate.2.capacity := by
    refine Nat.pow_le_pow_right (by decide) ?_
    rw [vacate, bits]
    omega
  rw [exhausted.2] at few
  omega

end Slots

/-! ### Around the circle -/

/-- The number of handles that are issued: all but zero. -/
def circle : Nat := 2 ^ 32 - 1

/-- A handle is issued right after another one, behind which it comes in at most so many steps. -/
def Follows (most : Nat) (earlier later : Handle) : Prop :=
  ∃ steps, 0 < steps ∧ steps ≤ most ∧
    earlier.raw.toNat + steps ≡ later.raw.toNat [MOD circle]

/-- The next handle is among the candidates behind the cursor, of which zero does not count. -/
theorem follows_of_candidate {earlier later : Handle} {offset : Nat} (nonzero : later.raw ≠ 0)
    (within : offset < most) (few : most ≤ 2 ^ 31)
    (reached : later.raw = Slots.cursorAfter earlier + UInt32.ofNat offset) :
    Follows most earlier later := by
  have positive : later.raw.toNat ≠ 0 := by
    intro zero
    exact nonzero (UInt32.toNat_inj.1 zero)
  have small := earlier.raw.toNat_lt
  have there : later.raw.toNat = ((Slots.cursorAfter earlier).toNat + offset) % 2 ^ 32 := by
    rw [reached, UInt32.toNat_add, UInt32.toNat_ofNat', Nat.add_mod_mod]
  have behind := Slots.toNat_cursorAfter earlier
  unfold Follows Nat.ModEq circle
  by_cases last : earlier.raw.toNat + 1 = 2 ^ 32
  · rw [if_pos last] at behind
    refine ⟨offset + 1, Nat.succ_pos offset, within, ?_⟩
    omega
  · rw [if_neg last] at behind
    by_cases inside : earlier.raw.toNat + 1 + offset < 2 ^ 32
    · refine ⟨offset + 1, Nat.succ_pos offset, within, ?_⟩
      omega
    · -- the candidate zero was passed over on the way
      refine ⟨offset, ?_, Nat.le_of_lt within, ?_⟩ <;> omega

/-- Handles that are issued one after another come behind the first of them in at least one step
each. -/
theorem exists_steps {handles : List Handle}
    (chain : handles.IsChain fun later earlier => Follows most earlier later) (recent apart : Nat)
    (bound : recent + apart < handles.length) :
    ∃ steps, apart ≤ steps ∧ steps ≤ most * apart ∧
      handles[recent + apart].raw.toNat + steps ≡ handles[recent].raw.toNat [MOD circle] := by
  induction apart with
  | zero => exact ⟨0, Nat.le_refl 0, Nat.zero_le _, rfl⟩
  | succ apart ih =>
    obtain ⟨steps, least, within, onward⟩ := ih (by omega)
    obtain ⟨more, positive, few, step⟩ := chain.getElem (recent + apart) bound
    refine ⟨more + steps, by omega, ?_, ?_⟩
    · rw [Nat.mul_succ]
      omega
    · rw [← Nat.add_assoc]
      exact (step.add_right steps).trans onward

/-- The same handle is issued again only after the whole circle. -/
theorem circle_le_of_same {handles : List Handle}
    (chain : handles.IsChain fun later earlier => Follows most earlier later) {recent old : Nat}
    (order : recent < old) (newer : handles[recent]? = some handle)
    (older : handles[old]? = some handle) : circle ≤ most * (old - recent) := by
  obtain ⟨bound, same⟩ := List.getElem?_eq_some_iff.1 older
  obtain ⟨_, same'⟩ := List.getElem?_eq_some_iff.1 newer
  have place : recent + (old - recent) = old := by omega
  obtain ⟨steps, least, within, around⟩ :=
    exists_steps chain recent (old - recent) (place.symm ▸ bound)
  simp only [place, same, same'] at around
  have divides : circle ∣ steps := by
    have whole := (Nat.modEq_iff_dvd' (Nat.le_add_right handle.raw.toNat steps)).1 around.symm
    rwa [Nat.add_sub_cancel_left] at whole
  exact (Nat.le_of_dvd (by omega) divides).trans within

/-! ### Histories -/

/-- The answer to a registration. -/
def Result.issue? : Result α → Option (Option Handle)
  | registered handle => some handle
  | _ => none

/-- The answers to the registrations of a history, newest first. -/
def issues (past : List (Call α × Result α)) : List (Option Handle) :=
  past.filterMap fun entry => entry.2.issue?

/-- The handles that were issued, newest first, and where the cursor is behind them. -/
structure Issued (most : Nat) (history : History α) (handles : List Handle) : Prop where
  answers : issues history.past = handles.map some
  nonzero {handle : Handle} (member : handle ∈ handles) : handle.raw ≠ 0
  chain : handles.IsChain fun later earlier => Follows most earlier later
  cursor {last : Handle} (newest : last ∈ handles.head?) :
    history.directory.slots.cursor = Slots.cursorAfter last

namespace Issued

variable {history : History α} {handles : List Handle}

/-- What is no registration issues nothing and leaves the cursor alone. -/
theorem perform_of_none (issued : Issued most history handles) {call : Call α}
    (none : (history.directory.call call).1.issue? = none)
    (same : (history.directory.call call).2.slots.cursor = history.directory.slots.cursor) :
    Issued most (history.perform call) handles where
  answers := by
    rw [← issued.answers]
    exact List.filterMap_cons_none none
  nonzero := issued.nonzero
  chain := issued.chain
  cursor newest := same.trans (issued.cursor newest)

private theorem perform_register (issued : Issued most history handles)
    (placed : history.directory.slots.Placed) (occupant : α) (few : most ≤ 2 ^ 31)
    (fits : (history.perform (.register occupant)).directory.capacity ≤ most) :
    ∃ handle, Issued most (history.perform (.register occupant)) (handle :: handles) := by
  obtain ⟨handle, found⟩ := Slots.exists_handle_of_capacity_le (Nat.le_trans fits few)
  obtain ⟨vacated, capacity, cursor⟩ := Slots.register_of_vacate found
  obtain ⟨offset, within, reached⟩ := Slots.exists_offset_of_vacateWithin vacated
  obtain ⟨_, fresh⟩ := placed.register occupant
  rw [found] at fresh
  have within : offset < most := by
    refine Nat.lt_of_lt_of_le within (Nat.le_trans (Nat.le_of_eq capacity.symm) ?_)
    exact fits
  refine ⟨handle, ?_, ?_, ?_, ?_⟩
  · refine (List.filterMap_cons_some ?_).trans (congrArg (some handle :: ·) issued.answers)
    exact congrArg some found
  · intro other member
    obtain rfl | old := List.mem_cons.1 member
    · exact fresh.1
    · exact issued.nonzero old
  · refine List.isChain_cons.2 ⟨fun last newest => ?_, issued.chain⟩
    rw [issued.cursor newest] at reached
    exact follows_of_candidate fresh.1 within few reached
  · intro last newest
    obtain rfl := Option.some.inj newest
    exact cursor

end Issued

private theorem exists_issued {count : Nat} {cursor : UInt32} (few : most ≤ 2 ^ 31)
    (calls : List (Call α))
    (fits : ∀ earlier, earlier <+: calls →
      ((History.start count cursor).performAll earlier).directory.capacity ≤ most) :
    ∃ handles, Issued most ((History.start count cursor).performAll calls) handles := by
  induction calls using List.reverseRecOn with
  | nil =>
    refine ⟨[], ?_⟩
    exact {
      answers := rfl
      nonzero := fun member => nomatch member
      chain := .nil
      cursor := fun newest => nomatch newest }
  | append_singleton calls last ih =>
    obtain ⟨handles, issued⟩ :=
      ih fun earlier begins => fits earlier (begins.trans (List.prefix_append ..))
    have fits := fits _ (List.prefix_refl _)
    rw [History.performAll_append] at fits ⊢
    cases last with
    | register occupant =>
      have placed := (charted_performAll count cursor calls).placed
      obtain ⟨handle, issued⟩ := issued.perform_register placed occupant few fits
      exact ⟨_, issued⟩
    | retire handle =>
      refine ⟨handles, issued.perform_of_none rfl ?_⟩
      change (Directory.retire _ handle).2.slots.cursor = _
      rw [slots_retire]
      unfold Slots.retire
      split <;> rfl
    | bind handle name =>
      refine ⟨handles, issued.perform_of_none ?_ ?_⟩
      · dsimp only [Directory.call]
        split <;> rfl
      · exact congrArg Slots.cursor (slots_call_bind _ handle name)

/-- While there are at most so many slots, every registration is answered by a handle that is
neither zero nor in use, and those that are answered by the same handle are as far apart as it takes
slots to cover all handles but zero. -/
theorem reissued_after_circle {count : Nat} {cursor : UInt32} (few : most ≤ 2 ^ 31)
    (calls : List (Call α))
    (fits : ∀ earlier, earlier <+: calls →
      ((History.start count cursor).performAll earlier).directory.capacity ≤ most) :
    let issued := issues ((History.start count cursor).performAll calls).past
    (∀ answer ∈ issued, ∃ handle, answer = some handle ∧ handle.raw ≠ 0) ∧
    (∀ earlier occupant, earlier ++ [.register occupant] <+: calls →
      let history := (History.start count cursor).performAll earlier
      ∃ handle, (history.directory.register occupant).1 = some handle ∧
        history.directory.find? handle = none ∧ handle ∉ chart history.past) ∧
    ∀ (recent old : Nat) (handle : Handle), recent < old → issued[recent]? = some (some handle) →
      issued[old]? = some (some handle) → (2 ^ 32 - 1) ⌈/⌉ most ≤ old - recent := by
  intro issued
  obtain ⟨handles, known⟩ := exists_issued few calls fits
  have answers : issued = handles.map some := known.answers
  refine ⟨?_, ?_, ?_⟩
  · intro answer member
    rw [answers, List.mem_map] at member
    obtain ⟨handle, member, rfl⟩ := member
    exact ⟨handle, rfl, known.nonzero member⟩
  · intro earlier occupant begins history
    have charted := charted_performAll count cursor earlier
    have fits := fits _ begins
    rw [History.performAll_append] at fits
    obtain ⟨handle, found⟩ := Slots.exists_handle_of_capacity_le (Nat.le_trans fits few)
    obtain ⟨_, fresh⟩ := charted.fresh found
    refine ⟨handle, found, ?_, fresh⟩
    rw [charted.finds, Finmap.lookup_eq_none]
    exact fresh
  · intro recent old handle order newer older
    have positive : 0 < most := by
      refine Nat.lt_of_lt_of_le ?_ (fits [] (List.nil_prefix))
      exact twoPow_pos _
    rw [answers, List.getElem?_map, Option.map_eq_some_iff] at newer older
    obtain ⟨_, newer, same⟩ := newer
    obtain rfl := Option.some.inj same
    obtain ⟨_, older, same⟩ := older
    obtain rfl := Option.some.inj same
    exact (ceilDiv_le_iff_le_mul positive).2 (circle_le_of_same known.chain order newer older)

/-- The cursor goes past zero, and two slots are enough for handles that are given up in time. -/
theorem reissued_after_circle_at_wrap :
    let calls : List (Call Nat) :=
      [.register 10, .register 20, .retire ⟨4294967295⟩, .register 30]
    let issued := issues ((History.start 2 4294967295).performAll calls).past
    2 ≤ 2 ^ 31 ∧
    (∀ earlier, earlier <+: calls →
      ((History.start 2 4294967295).performAll earlier).directory.capacity ≤ 2) ∧
    issued = [some ⟨3⟩, some ⟨2⟩, some ⟨4294967295⟩] ∧
    ∀ (recent old : Nat) (handle : Handle), recent < old → issued[recent]? = some (some handle) →
      issued[old]? = some (some handle) → 2147483648 ≤ old - recent := by
  intro calls issued
  have fits (earlier : List (Call Nat)) (begins : earlier <+: calls) :
      ((History.start 2 4294967295).performAll earlier).directory.capacity ≤ 2 := by
    rw [← List.mem_inits] at begins
    revert earlier
    decide +kernel
  have apart := (reissued_after_circle (by decide) calls fits).2.2
  rw [show (2 ^ 32 - 1) ⌈/⌉ 2 = 2147483648 from by decide +kernel] at apart
  exact ⟨by decide, fits, by decide +kernel, apart⟩

end Mailroom.Directory
