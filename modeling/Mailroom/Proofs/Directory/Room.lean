import Mailroom.Proofs.Directory.Placement
import Mathlib.Algebra.Group.Nat.Defs
import Mathlib.Data.List.Nodup
/-! # Room for another handle

The candidates that are tried for a new handle name every slot once, and only the candidate zero is
passed over without a look. So if there is no candidate, every slot but that of zero is taken. Slots
that are not all taken are never doubled for long, and as long as less than half of the handles are
in use there are no more slots than that.
-/

namespace Mailroom.Directory.Slots

variable {α : Type} {slots : Slots α} {handle : Handle} {bits : Nat}

/-! ### Handles in use -/

theorem Placed.nodup_handles (placed : slots.Placed) : (slots.entries.map (·.1)).Nodup := by
  rw [List.Nodup, List.pairwise_map]
  refine placed.pairwise_entries.imp fun apart same => apart ?_
  rw [same]

private theorem Placed.nodup_entries (placed : slots.Placed) : slots.entries.Nodup :=
  placed.nodup_handles.of_map _

/-- Doubling seats the same occupants anew. -/
theorem Placed.perm_entries_grow (placed : slots.Placed) :
    slots.grow.entries.Perm slots.entries := by
  rw [List.perm_ext_iff_of_nodup (placed_grow slots).nodup_entries placed.nodup_entries]
  rintro ⟨handle, occupant⟩
  rw [(placed_grow slots).mem_entries_iff, placed.find?_grow, placed.mem_entries_iff]

theorem Placed.count_grow (placed : slots.Placed) : slots.grow.count = slots.count :=
  placed.perm_entries_grow.length_eq

/-- While occupants are seated anew, each of them finds its slot free. -/
theorem Placed.getElem_seating (placed : slots.Placed) {earlier later : List (Handle × α)}
    {entry : Handle × α} (order : slots.entries = earlier ++ entry :: later) :
    (earlier.foldl Slots.seat (Vector.replicate (twoPow (slots.bits + 1)) none))[
      slotOf (slots.bits + 1) entry.1] = none := by
  have apart := placed.pairwise_entries
  rw [order, List.pairwise_append] at apart
  rw [getElem_foldl_seat_of_ne fun other seated => apart.2.2 other seated entry List.mem_cons_self]
  exact getElem_free _

/-! ### Candidates -/

/-- Every candidate that is passed over is zero or names a slot that is taken. -/
theorem cellOf_of_probe_eq_none {candidate : UInt32} {count : Nat}
    (passed : slots.probe candidate count = none) {offset : Nat} (within : offset < count) :
    candidate + UInt32.ofNat offset = 0 ∨
      slots.cellOf ⟨candidate + UInt32.ofNat offset⟩ ≠ none := by
  induction count generalizing candidate offset with
  | zero => omega
  | succ count ih =>
    rw [probe_succ] at passed
    split at passed
    · exact nomatch passed
    · rename_i taken
      cases offset with
      | zero =>
        rw [show UInt32.ofNat 0 = 0 from rfl, UInt32.add_zero]
        by_contra free
        rw [not_or, not_not] at free
        exact taken ⟨free.1, Option.isNone_iff_eq_none.2 free.2⟩
      | succ offset =>
        have next : candidate + UInt32.ofNat (offset + 1) = candidate + 1 + UInt32.ofNat offset := by
          rw [UInt32.ofNat_add, UInt32.add_comm (UInt32.ofNat offset), UInt32.add_assoc]
          rfl
        rw [next]
        exact ih passed (by omega)

/-- Candidates in a row, as many as there are slots, name every slot. -/
theorem exists_candidate (word : bits ≤ 32) (cursor : UInt32) (index : Fin (twoPow bits)) :
    ∃ offset < twoPow bits, slotOf bits ⟨cursor + UInt32.ofNat offset⟩ = index := by
  have positive := twoPow_pos bits
  have divides : twoPow bits ∣ 2 ^ 32 := Nat.pow_dvd_pow 2 word
  have small : twoPow bits ≤ 2 ^ 32 := Nat.le_of_dvd (by decide) divides
  let offset := (index.val + (twoPow bits - cursor.toNat % twoPow bits)) % twoPow bits
  have within : offset < twoPow bits := Nat.mod_lt _ positive
  refine ⟨offset, within, Fin.ext ?_⟩
  have there : (cursor + UInt32.ofNat offset).toNat = (cursor.toNat + offset) % 2 ^ 32 := by
    rw [UInt32.toNat_add, UInt32.toNat_ofNat', Nat.add_mod_mod]
  have below := Nat.mod_lt cursor.toNat positive
  have split := Nat.div_add_mod cursor.toNat (twoPow bits)
  calc (cursor + UInt32.ofNat offset).toNat % twoPow bits
      = (cursor.toNat + offset) % twoPow bits := by rw [there, Nat.mod_mod_of_dvd _ divides]
    _ = (cursor.toNat + (index.val + (twoPow bits - cursor.toNat % twoPow bits))) %
          twoPow bits := Nat.add_mod_mod ..
    _ = (index.val + twoPow bits * (cursor.toNat / twoPow bits + 1)) % twoPow bits := by
        congr 1
        rw [Nat.mul_add]
        omega
    _ = index.val := by rw [Nat.add_mul_mod_self_left, Nat.mod_eq_of_lt index.isLt]

/-- If there is no candidate, every slot but that of zero is taken. -/
theorem eq_slotOf_zero_of_vacant?_eq_none (word : slots.bits ≤ 32) (full : slots.vacant? = none)
    {index : Fin (twoPow slots.bits)} (free : slots.cells.get index = none) :
    index = slotOf slots.bits ⟨0⟩ := by
  obtain ⟨offset, within, named⟩ := exists_candidate word slots.cursor index
  obtain zero | taken := cellOf_of_probe_eq_none full within
  · rw [← named, zero]
  · exact absurd ((cellOf_eq named).trans free) taken

theorem capacity_le_of_vacant?_eq_none (word : slots.bits ≤ 32) (full : slots.vacant? = none) :
    slots.capacity ≤ slots.count + 1 := by
  have size : slots.cells.toList.length = slots.capacity := Vector.length_toList
  cases cells : slots.cells.toList with
  | nil =>
    rw [cells] at size
    exact size ▸ Nat.zero_le _
  | cons first rest =>
    -- the slot of zero is the first one, so all the others are taken
    have taken : ∀ cell ∈ rest, (id cell).isSome = true := by
      intro cell member
      obtain ⟨place, bound, sits⟩ := List.getElem_of_mem member
      have inside : place + 1 < slots.cells.toList.length := by
        rw [cells]
        exact Nat.succ_lt_succ bound
      have sits' : slots.cells.toList[place + 1] = cell := by
        simp only [cells, List.getElem_cons_succ, sits]
      rw [Vector.getElem_toList] at sits'
      rw [Vector.length_toList] at inside
      rw [id_eq, ← Option.ne_none_iff_isSome]
      rintro rfl
      have zero : (⟨place + 1, inside⟩ : Fin _) = slotOf slots.bits ⟨0⟩ :=
        eq_slotOf_zero_of_vacant?_eq_none word full sits'
      have first : place + 1 = 0 % twoPow slots.bits := congrArg Fin.val zero
      rw [Nat.zero_mod] at first
      omega
    have length : slots.capacity = rest.length + 1 := by rw [← size, cells, List.length_cons]
    have counted : rest.length ≤ slots.count := by
      rw [count, entries, cells, ← List.filterMap_length_eq_length.2 taken]
      exact ((List.sublist_cons_self first rest).filterMap id).length_le
    omega

/-! ### Growing until there is a candidate -/

/-- With less than half of the handles in use the slots need not grow beyond that half. -/
theorem Placed.exists_vacateWithin (placed : slots.Placed) {doublings : Nat}
    (word : slots.bits + doublings = 32) (small : slots.bits ≤ 31)
    (room : slots.count < 2 ^ 31 - 1) :
    ∃ handle, (slots.vacateWithin doublings).1 = some handle ∧
      (slots.vacateWithin doublings).2.bits ≤ 31 := by
  induction doublings generalizing slots with
  | zero => omega
  | succ doublings ih =>
    rw [Slots.vacateWithin]
    split
    · exact ⟨_, rfl, small⟩
    · rename_i full
      have taken := capacity_le_of_vacant?_eq_none (by omega) full
      have fewer : slots.bits < 31 := by
        refine Nat.lt_of_le_of_ne small fun most => ?_
        rw [capacity, most, show twoPow 31 = 2 ^ 31 from rfl] at taken
        omega
      refine ih (placed_grow slots) ?_ ?_ ?_
      · change slots.bits + 1 + doublings = 32
        omega
      · exact fewer
      · rwa [placed.count_grow]

theorem Placed.exists_register (placed : slots.Placed) (small : slots.bits ≤ 31)
    (room : slots.count < 2 ^ 31 - 1) (occupant : α) :
    ∃ handle, (slots.register occupant).1 = some handle ∧
      (slots.register occupant).2.bits ≤ 31 := by
  have word : slots.bits + (32 - slots.bits) = 32 := by omega
  obtain ⟨handle, found, few⟩ := placed.exists_vacateWithin word small room
  rw [← Slots.vacate] at found few
  refine ⟨handle, ?_⟩
  unfold Slots.register
  split <;> rename_i vacated <;> rw [vacated] at found few
  · cases found
  · exact ⟨found, few⟩

theorem bits_retire (slots : Slots α) (handle : Handle) :
    (slots.retire handle).2.bits = slots.bits := by
  unfold retire
  split <;> rfl

/-! ### Masks -/

/-- The slot that a handle names is its low bits. -/
theorem toNat_and_mask (word : bits ≤ 32) (handle : Handle) :
    (handle.raw &&& UInt32.ofNat (twoPow bits - 1)).toNat = (slotOf bits handle).val := by
  have positive := twoPow_pos bits
  have small : twoPow bits ≤ 2 ^ 32 := Nat.pow_le_pow_right (by decide) word
  rw [UInt32.toNat_and, UInt32.toNat_ofNat', Nat.mod_eq_of_lt (by omega)]
  exact Nat.and_two_pow_sub_one_eq_mod ..

end Mailroom.Directory.Slots
