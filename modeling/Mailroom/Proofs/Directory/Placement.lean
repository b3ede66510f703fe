import Mailroom.Directory
import Mathlib.Data.List.Basic
/-! # Who is found by a handle

Every occupant sits in the slot that its handle names, whatever the number of slots. So doubling the
slots moves everybody without a collision, issuing a handle changes what is found by that handle
only, and so does giving it up.
-/

namespace Mailroom.Directory

namespace Slots

variable {α : Type} {slots grown : Slots α} {handle : Handle} {occupant : α} {bits : Nat}

/-- What sits in the slot that a handle names. -/
def cellOf (slots : Slots α) (handle : Handle) : Option (Handle × α) :=
  slots.cells.get (slotOf slots.bits handle)

/-- Every occupant sits in the slot that its handle names. -/
def Placed (slots : Slots α) : Prop :=
  ∀ (index : Fin (twoPow slots.bits)) (entry : Handle × α),
    slots.cells[index] = some entry → slotOf slots.bits entry.1 = index

private theorem find?_eq (slots : Slots α) (handle : Handle) :
    slots.find? handle =
      match slots.cellOf handle with
      | some (holder, occupant) => if holder = handle then some occupant else none
      | none => none := rfl

theorem cellOf_eq {index : Fin (twoPow slots.bits)} (named : slotOf slots.bits handle = index) :
    slots.cellOf handle = slots.cells[index] := by
  subst named
  rfl

theorem find?_eq_some_iff :
    slots.find? handle = some occupant ↔ slots.cellOf handle = some (handle, occupant) := by
  rw [find?_eq]
  split
  · rename_i holder other sits
    rw [sits]
    by_cases same : holder = handle <;> simp [same]
  · rename_i free
    simp [free]

private theorem find?_eq_none_of_isNone (free : slots.cellOf handle = none) :
    slots.find? handle = none := by
  rw [find?_eq, free]

/-- Nobody sits in free cells. -/
theorem getElem_free (index : Fin (twoPow bits)) :
    (Vector.replicate (twoPow bits) (none : Option (Handle × α)))[index] = none :=
  Vector.getElem_replicate _

theorem placed_ofCount (count : Nat) : (ofCount count : Slots α).Placed := by
  intro index entry sits
  exact nomatch (getElem_free index).symm.trans sits

@[simp] theorem find?_ofCount (count : Nat) (handle : Handle) :
    (ofCount count : Slots α).find? handle = none :=
  find?_eq_none_of_isNone ((cellOf_eq rfl).trans (getElem_free _))

theorem Placed.mem_entries_iff (placed : slots.Placed) :
    (handle, occupant) ∈ slots.entries ↔ slots.find? handle = some occupant := by
  rw [find?_eq_some_iff]
  simp only [entries, List.mem_filterMap, id_eq, exists_eq_right]
  constructor
  · intro member
    obtain ⟨index, bound, sits⟩ := List.getElem_of_mem member
    rw [Vector.length_toList] at bound
    rw [Vector.getElem_toList] at sits
    exact (cellOf_eq (placed ⟨index, bound⟩ _ sits)).trans sits
  · intro sits
    rw [← sits]
    exact Vector.mem_toList_iff.2 (Vector.getElem_mem _)

/-! ### Doubling -/

/-- Occupants that have different slots have different ones among twice as many. -/
theorem slotOf_succ_ne {first second : Handle}
    (apart : slotOf bits first ≠ slotOf bits second) :
    slotOf (bits + 1) first ≠ slotOf (bits + 1) second := by
  intro same
  apply apart
  have equal : first.raw.toNat % (twoPow bits * 2) = second.raw.toNat % (twoPow bits * 2) :=
    congrArg Fin.val same
  rw [slotOf, slotOf, Fin.mk.injEq, ← Nat.mod_mul_right_mod, equal, Nat.mod_mul_right_mod]

theorem Placed.pairwise_entries (placed : slots.Placed) :
    slots.entries.Pairwise fun first second =>
      slotOf (slots.bits + 1) first.1 ≠ slotOf (slots.bits + 1) second.1 := by
  rw [entries, List.pairwise_filterMap, List.pairwise_iff_getElem]
  intro low high low_bound high_bound order first sits second sits'
  rw [Vector.length_toList] at low_bound high_bound
  rw [id_eq, Vector.getElem_toList] at sits sits'
  apply slotOf_succ_ne
  rw [placed ⟨low, low_bound⟩ first sits, placed ⟨high, high_bound⟩ second sits', Ne, Fin.mk.injEq]
  omega

private theorem getElem_set_slotOf (cells : Vector (Option (Handle × α)) (twoPow bits))
    (handle : Handle) (cell : Option (Handle × α)) (index : Fin (twoPow bits)) :
    (cells.set (slotOf bits handle) cell)[index] =
      if slotOf bits handle = index then cell else cells[index] := by
  simp [Vector.getElem_set, Fin.ext_iff]

private theorem getElem_seat (cells : Vector (Option (Handle × α)) (twoPow bits))
    (entry : Handle × α) (index : Fin (twoPow bits)) :
    (seat cells entry)[index] =
      if slotOf bits entry.1 = index then some entry else cells[index] :=
  getElem_set_slotOf ..

/-- Nobody turns up in a cell by being seated but those who are seated there. -/
theorem eq_slotOf_of_foldl_seat {entries : List (Handle × α)}
    {cells : Vector (Option (Handle × α)) (twoPow bits)} {index : Fin (twoPow bits)}
    {entry : Handle × α} (sits : (entries.foldl seat cells)[index] = some entry) :
    cells[index] = some entry ∨ entry ∈ entries ∧ slotOf bits entry.1 = index := by
  induction entries generalizing cells with
  | nil => exact .inl sits
  | cons first rest ih =>
    obtain sits' | ⟨member, named⟩ := ih sits
    · rw [getElem_seat] at sits'
      split at sits'
      · obtain rfl := Option.some.inj sits'
        exact .inr ⟨List.mem_cons_self, ‹_›⟩
      · exact .inl sits'
    · exact .inr ⟨List.mem_cons_of_mem _ member, named⟩

/-- A cell keeps who sits there while others are seated elsewhere. -/
theorem getElem_foldl_seat_of_ne {entries : List (Handle × α)}
    {cells : Vector (Option (Handle × α)) (twoPow bits)} {index : Fin (twoPow bits)}
    (apart : ∀ entry ∈ entries, slotOf bits entry.1 ≠ index) :
    (entries.foldl seat cells)[index] = cells[index] := by
  induction entries generalizing cells with
  | nil => rfl
  | cons first rest ih =>
    rw [List.forall_mem_cons] at apart
    rw [List.foldl_cons, ih apart.2, getElem_seat, if_neg apart.1]

/-- Everybody is seated if no two have one slot. -/
theorem getElem_foldl_seat {entries : List (Handle × α)}
    (apart : entries.Pairwise fun first second => slotOf bits first.1 ≠ slotOf bits second.1)
    (cells : Vector (Option (Handle × α)) (twoPow bits)) {entry : Handle × α}
    (member : entry ∈ entries) {index : Fin (twoPow bits)} (named : slotOf bits entry.1 = index) :
    (entries.foldl seat cells)[index] = some entry := by
  induction apart generalizing cells with
  | nil => exact absurd member List.not_mem_nil
  | @cons first rest others _ ih =>
    obtain rfl | later := List.mem_cons.1 member
    · rw [List.foldl_cons, getElem_foldl_seat_of_ne fun other seated =>
        named ▸ (others other seated).symm, getElem_seat, if_pos named]
    · exact ih _ later

private theorem mem_entries_of_grow {index : Fin (twoPow slots.grow.bits)} {entry : Handle × α}
    (sits : slots.grow.cells[index] = some entry) :
    entry ∈ slots.entries ∧ slotOf slots.grow.bits entry.1 = index := by
  obtain free | seated := eq_slotOf_of_foldl_seat sits
  · exact nomatch (getElem_free index).symm.trans free
  · exact seated

theorem placed_grow (slots : Slots α) : slots.grow.Placed :=
  fun _ _ sits => (mem_entries_of_grow sits).2

theorem Placed.find?_grow (placed : slots.Placed) (handle : Handle) :
    slots.grow.find? handle = slots.find? handle := by
  ext occupant
  rw [← placed.mem_entries_iff, find?_eq_some_iff, cellOf_eq rfl]
  constructor
  · exact fun sits => (mem_entries_of_grow sits).1
  · exact fun member => getElem_foldl_seat placed.pairwise_entries _ member rfl

/-! ### Issuing a handle -/

theorem probe_succ (slots : Slots α) (candidate : UInt32) (count : Nat) :
    slots.probe candidate (count + 1) =
      if candidate ≠ 0 ∧ (slots.cellOf ⟨candidate⟩).isNone then some ⟨candidate⟩
      else slots.probe (candidate + 1) count := rfl

theorem isNone_of_probe {candidate : UInt32} {count : Nat}
    (found : slots.probe candidate count = some handle) :
    handle.raw ≠ 0 ∧ slots.cellOf handle = none := by
  induction count generalizing candidate with
  | zero => exact nomatch found
  | succ count ih =>
    rw [probe_succ] at found
    split at found
    · rename_i free
      obtain rfl := Option.some.inj found
      exact ⟨free.1, Option.isNone_iff_eq_none.1 free.2⟩
    · exact ih found

/-- Growing until there is a free slot moves everybody and puts nobody out. -/
theorem Placed.vacateWithin (placed : slots.Placed) (doublings : Nat) :
    (slots.vacateWithin doublings).2.Placed ∧
    (∀ handle, (slots.vacateWithin doublings).2.find? handle = slots.find? handle) ∧
    ∀ handle, (slots.vacateWithin doublings).1 = some handle → handle.raw ≠ 0 ∧
      (slots.vacateWithin doublings).2.cellOf handle = none := by
  induction doublings generalizing slots with
  | zero => exact ⟨placed, fun _ => rfl, fun handle found => isNone_of_probe found⟩
  | succ doublings ih =>
    rw [Slots.vacateWithin]
    split
    · rename_i found
      exact ⟨placed, fun _ => rfl, fun handle same => isNone_of_probe (found.trans same)⟩
    · obtain ⟨placed', finds, free⟩ := ih (placed_grow slots)
      exact ⟨placed', fun handle => (finds handle).trans (placed.find?_grow handle), free⟩

private theorem Placed.seat (placed : slots.Placed) (entry : Handle × α) (cursor : UInt32) :
    Placed { slots with cells := seat slots.cells entry, cursor } := by
  intro index other sits
  rw [getElem_seat] at sits
  split at sits
  · obtain rfl := Option.some.inj sits
    assumption
  · exact placed index other sits

private theorem find?_seat (free : slots.cellOf handle = none) (occupant : α)
    (cursor : UInt32) (other : Handle) :
    find? { slots with cells := seat slots.cells (handle, occupant), cursor } other =
      if other = handle then some occupant else slots.find? other := by
  ext found
  rw [find?_eq_some_iff, cellOf_eq rfl, getElem_seat]
  by_cases named : slotOf slots.bits handle = slotOf slots.bits other
  · have absent : slots.find? other = none :=
      find?_eq_none_of_isNone ((cellOf_eq rfl).trans ((cellOf_eq named).symm.trans free))
    rw [if_pos named, absent]
    by_cases same : other = handle
    · simp [same]
    · simp [same, Ne.symm same]
  · have apart : other ≠ handle := fun same => named (same ▸ rfl)
    rw [if_neg named, if_neg apart, find?_eq_some_iff, cellOf_eq rfl]

/-- A handle is issued to its occupant only, and was not in use. -/
theorem Placed.register (placed : slots.Placed) (occupant : α) :
    (slots.register occupant).2.Placed ∧
    match (slots.register occupant).1 with
    | none => ∀ other, (slots.register occupant).2.find? other = slots.find? other
    | some handle => handle.raw ≠ 0 ∧ slots.find? handle = none ∧
      ∀ other, (slots.register occupant).2.find? other =
        if other = handle then some occupant else slots.find? other := by
  obtain ⟨placed', finds, fresh⟩ := placed.vacateWithin (32 - slots.bits)
  rw [← Slots.vacate] at placed' finds fresh
  unfold Slots.register
  split
  · rename_i left vacated
    rw [vacated] at placed' finds
    exact ⟨placed', finds⟩
  · rename_i handle left vacated
    rw [vacated] at placed' finds fresh
    obtain ⟨nonzero, free⟩ := fresh handle rfl
    refine ⟨placed'.seat _ _, nonzero, ?_, fun other => ?_⟩
    · rw [← finds, find?_eq_none_of_isNone free]
    · rw [find?_seat free, finds]

/-! ### Giving up a handle -/

theorem Placed.retire (placed : slots.Placed) (handle : Handle) :
    (slots.retire handle).2.Placed := by
  unfold Slots.retire
  split
  · exact placed
  · intro index entry sits
    rw [getElem_set_slotOf] at sits
    split at sits
    · exact nomatch sits
    · exact placed index entry sits

@[simp] theorem retire_fst (slots : Slots α) (handle : Handle) :
    (slots.retire handle).1 = slots.find? handle := by
  unfold retire
  split <;> simp [*]

private theorem find?_retire (slots : Slots α) (handle other : Handle) :
    (slots.retire handle).2.find? other =
      if other = handle then none else slots.find? other := by
  unfold retire
  split
  · rename_i absent
    by_cases same : other = handle <;> simp [same, absent]
  · rename_i occupant sits
    rw [find?_eq_some_iff] at sits
    ext found
    rw [find?_eq_some_iff, cellOf_eq rfl, getElem_set_slotOf]
    by_cases named : slotOf slots.bits handle = slotOf slots.bits other
    · have holder : slots.find? other = if other = handle then some occupant else none := by
        ext who
        rw [find?_eq_some_iff, cellOf_eq rfl, ← cellOf_eq named, sits]
        by_cases same : other = handle
        · simp [same]
        · simp [same, Ne.symm same]
      rw [if_pos named, holder]
      by_cases same : other = handle <;> simp [same]
    · have apart : other ≠ handle := fun same => named (same ▸ rfl)
      rw [if_neg named, if_neg apart, find?_eq_some_iff, cellOf_eq rfl]

end Slots

variable {α : Type} (directory : Directory α) (occupant : α) (handle other : Handle)

@[simp] theorem find?_ofCount (count : Nat) :
    (ofCount count : Directory α).find? handle = none := Slots.find?_ofCount count handle

@[simp] theorem fst_register :
    (directory.register occupant).1 = (directory.slots.register occupant).1 := rfl

@[simp] theorem slots_retire :
    (directory.retire handle).2.slots = (directory.slots.retire handle).2 := by
  obtain ⟨slots, names⟩ := directory
  rcases retired : slots.retire handle with ⟨_ | _, left⟩ <;> simp [retire, retired]

@[simp] theorem fst_retire : (directory.retire handle).1 = directory.find? handle := by
  obtain ⟨slots, names⟩ := directory
  rw [find?, ← Slots.retire_fst]
  rcases retired : slots.retire handle with ⟨_ | _, left⟩ <;> simp [retire, retired]

/-- A directory that does not have a handle stays as it is when that is retired. -/
theorem retire_of_find?_eq_none (absent : directory.find? handle = none) :
    directory.retire handle = (none, directory) := by
  have nobody : directory.slots.find? handle = none := absent
  have stays : directory.slots.retire handle = (none, directory.slots) := by
    rw [Slots.retire, nobody]
  rw [retire, stays]

theorem find?_retire :
    (directory.retire handle).2.find? other =
      if other = handle then none else directory.find? other := by
  rw [find?, slots_retire, Slots.find?_retire, find?]

theorem mem_handles_iff (placed : directory.slots.Placed) :
    handle ∈ directory.handles ↔ ∃ occupant, directory.find? handle = some occupant := by
  simp only [handles, List.mem_map, Prod.exists, exists_and_right, exists_eq_right,
    placed.mem_entries_iff, find?]

end Mailroom.Directory
