import Mailroom.Proofs.Directory.Reissue
import Mathlib.Logic.Function.Iterate
/-! # How far the slots double

Slots double only if none of the candidates has a free one, and then every slot is taken but perhaps
that of zero. Among twice as many there is a free one, except when there was a single slot and the
other one is that of zero. So registering ends after two doublings at most, and there are never more
than twice as many slots as there were occupants at one time.
-/

namespace Mailroom.Directory

variable {α : Type}

namespace Slots

variable {slots : Slots α} {handle : Handle} {doublings bound bits : Nat}

private theorem count_le_capacity (slots : Slots α) : slots.count ≤ slots.capacity :=
  (List.length_filterMap_le id slots.cells.toList).trans (Nat.le_of_eq Vector.length_toList)

private theorem bits_iterate_grow (slots : Slots α) (doublings : Nat) :
    (grow^[doublings] slots).bits = slots.bits + doublings := by
  induction doublings generalizing slots with
  | zero => rfl
  | succ doublings ih =>
    rw [Function.iterate_succ_apply, ih]
    exact Nat.succ_add_eq_add_succ slots.bits doublings

private theorem capacity_iterate_grow (slots : Slots α) (doublings : Nat) :
    (grow^[doublings] slots).capacity = 2 ^ doublings * slots.capacity := by
  rw [capacity, capacity, bits_iterate_grow]
  exact (Nat.pow_add 2 ..).trans (Nat.mul_comm ..)

/-! ### Slots without a candidate -/

/-- Every slot is taken, but perhaps the one whose candidate is zero. -/
def Full (slots : Slots α) : Prop :=
  ∀ index : Fin (twoPow slots.bits), slots.cells.get index = none →
    ∃ offset < slots.capacity, slots.cursor + UInt32.ofNat offset = 0 ∧
      slotOf slots.bits ⟨slots.cursor + UInt32.ofNat offset⟩ = index

/-- Candidates in a row, as many as there are slots, name no slot twice. -/
theorem candidate_inj (word : bits ≤ 32) (cursor : UInt32) {first second : Nat}
    (within : first < twoPow bits) (within' : second < twoPow bits)
    (same : slotOf bits ⟨cursor + UInt32.ofNat first⟩ =
      slotOf bits ⟨cursor + UInt32.ofNat second⟩) : first = second := by
  have divides : twoPow bits ∣ 2 ^ 32 := Nat.pow_dvd_pow 2 word
  have low (offset : Nat) : (cursor + UInt32.ofNat offset).toNat % twoPow bits =
      (cursor.toNat + offset) % twoPow bits := by
    rw [UInt32.toNat_add, UInt32.toNat_ofNat', Nat.add_mod_mod, Nat.mod_mod_of_dvd _ divides]
  have equal : (cursor.toNat + first) % twoPow bits = (cursor.toNat + second) % twoPow bits := by
    rw [← low, ← low]
    exact congrArg Fin.val same
  have offsets : first ≡ second [MOD twoPow bits] := Nat.ModEq.add_left_cancel' cursor.toNat equal
  exact offsets.eq_of_lt_of_lt within within'

theorem vacant?_eq_none_iff (word : slots.bits ≤ 32) : slots.vacant? = none ↔ slots.Full := by
  constructor
  · intro none index free
    obtain ⟨offset, within, named⟩ := exists_candidate word slots.cursor index
    obtain zero | taken := cellOf_of_probe_eq_none none within
    · exact ⟨offset, within, zero, named⟩
    · exact absurd ((cellOf_eq named).trans free) taken
  · intro full
    refine Option.eq_none_iff_forall_ne_some.2 fun handle vacant => ?_
    obtain ⟨nonzero, free⟩ := isNone_of_probe vacant
    obtain ⟨offset, within, reached⟩ := exists_offset_of_probe vacant
    obtain ⟨other, within', zero, named⟩ := full (slotOf slots.bits handle) free
    have same : slotOf slots.bits ⟨slots.cursor + UInt32.ofNat offset⟩ =
        slotOf slots.bits ⟨slots.cursor + UInt32.ofNat other⟩ := by
      rw [named, ← reached]
    rw [candidate_inj word slots.cursor within within' same, zero] at reached
    exact nonzero reached

/-! ### Doubling until there is a candidate -/

/-- Slots double until there is a candidate, and then no bound on the doublings matters. -/
theorem vacateWithin_of_vacant? (vacant : (grow^[doublings] slots).vacant? = some handle)
    (full : ∀ fewer < doublings, (grow^[fewer] slots).vacant? = none)
    (enough : doublings ≤ bound) :
    slots.vacateWithin bound = (some handle, grow^[doublings] slots) := by
  induction doublings generalizing slots bound with
  | zero =>
    have vacant : slots.vacant? = some handle := vacant
    cases bound with
    | zero => exact congrArg (·, slots) vacant
    | succ bound =>
      rw [vacateWithin, vacant]
      rfl
  | succ doublings ih =>
    obtain ⟨bound, rfl⟩ : ∃ less, bound = less + 1 := ⟨bound - 1, by omega⟩
    have none : slots.vacant? = none := full 0 (Nat.succ_pos doublings)
    rw [vacateWithin, none]
    exact ih vacant (fun fewer less => full (fewer + 1) (Nat.succ_lt_succ less)) (by omega)

/-- With less than half of the handles in use a candidate comes after two doublings at most, and the
slots have doubled only as far as there will be occupants for half of them. -/
theorem Placed.exists_doublings (placed : slots.Placed) (small : slots.bits ≤ 31)
    (room : slots.count < 2 ^ 31 - 1) :
    ∃ doublings ≤ 2, slots.bits + doublings ≤ 31 ∧
      (∃ handle, (grow^[doublings] slots).vacant? = some handle) ∧
      (∀ fewer < doublings, (grow^[fewer] slots).vacant? = none) ∧
      (0 < doublings → 2 ^ doublings * slots.capacity ≤ 2 * (slots.count + 1)) := by
  cases vacant : slots.vacant? with
  | some handle =>
    exact ⟨0, by omega, small, ⟨handle, vacant⟩, nofun, nofun⟩
  | none =>
    have taken := capacity_le_of_vacant?_eq_none (by omega) vacant
    have fewer : slots.bits ≤ 30 := by
      by_contra most
      rw [capacity, show slots.bits = 31 by omega, show twoPow 31 = 2 ^ 31 from rfl] at taken
      omega
    cases vacant' : slots.grow.vacant? with
    | some handle =>
      refine ⟨1, by omega, by omega, ⟨handle, vacant'⟩, fun less below => ?_, fun _ => ?_⟩
      · obtain rfl : less = 0 := by omega
        exact vacant
      · omega
    | none =>
      -- the slots that are new are all taken but one, so there is only one that is new
      have word : slots.grow.bits ≤ 32 := show slots.bits + 1 ≤ 32 by omega
      have taken' := capacity_le_of_vacant?_eq_none word vacant'
      have doubled : slots.grow.capacity = 2 ^ 1 * slots.capacity := capacity_iterate_grow slots 1
      have most := slots.count_le_capacity
      have positive : 0 < slots.capacity := twoPow_pos slots.bits
      rw [doubled, placed.count_grow] at taken'
      have single : slots.capacity = 1 := by omega
      have bits : slots.bits = 0 := by
        by_contra nonzero
        have two : 2 ≤ slots.capacity := Nat.le_self_pow nonzero 2
        omega
      refine ⟨2, Nat.le_refl 2, by omega, ?_, fun less below => ?_, fun _ => by omega⟩
      · refine Option.ne_none_iff_exists'.1 fun vacant => ?_
        have word : (grow^[2] slots).bits ≤ 32 := by
          rw [bits_iterate_grow]
          omega
        have taken := capacity_le_of_vacant?_eq_none word vacant
        have same : (grow^[2] slots).count = slots.count :=
          (placed_grow slots).count_grow.trans placed.count_grow
        rw [capacity_iterate_grow, same] at taken
        omega
      · obtain rfl | rfl : less = 0 ∨ less = 1 := by omega
        · exact vacant
        · exact vacant'

end Slots

/-! ### Histories -/

/-- The largest number of occupants at one time while calls are answered. -/
def peak (history : History α) : List (Call α) → Nat
  | [] => history.directory.count
  | call :: rest => max history.directory.count (peak (history.perform call) rest)

private theorem count_le_peak (history : History α) (calls : List (Call α)) :
    (history.performAll calls).directory.count ≤ peak history calls := by
  induction calls generalizing history with
  | nil => exact Nat.le_refl _
  | cons call rest ih => exact (ih (history.perform call)).trans (Nat.le_max_right _ _)

theorem peak_le_append (history : History α) (calls more : List (Call α)) :
    peak history calls ≤ peak history (calls ++ more) := by
  induction calls generalizing history with
  | nil =>
    cases more with
    | nil => exact Nat.le_refl _
    | cons call rest => exact Nat.le_max_left _ _
  | cons call rest ih => exact max_le_max_left _ (ih (history.perform call))

private theorem Charted.count_register {directory : Directory α} {map : Finmap fun _ : Handle => α}
    (charted : directory.Charted map) {occupant : α} {handle : Handle}
    (issued : (directory.register occupant).1 = some handle) :
    (directory.register occupant).2.count = directory.count + 1 := by
  have keys : (map.insert handle occupant).keys = insert handle map.keys := by
    ext other
    rw [Finmap.mem_keys, Finmap.mem_insert, Finset.mem_insert, Finmap.mem_keys]
  have fresh : handle ∉ map.keys := fun member =>
    (charted.fresh issued).2 (Finmap.mem_keys.1 member)
  rw [(charted.register issued).count_eq, charted.count_eq, keys, Finset.card_insert_of_notMem fresh]

private theorem capacity_retire (directory : Directory α) (handle : Handle) :
    (directory.retire handle).2.capacity = directory.capacity := by
  rw [capacity, slots_retire, Slots.capacity, Slots.bits_retire]
  rfl

/-- What registering does to the slots: they double as often as it takes for a candidate. -/
theorem Charted.exists_register {directory : Directory α} {map : Finmap fun _ : Handle => α}
    (charted : directory.Charted map) (small : directory.slots.bits ≤ 31)
    (room : directory.count < 2 ^ 31 - 1) :
    ∃ doublings ≤ 2, ∃ handle,
      (∀ bound, doublings ≤ bound → directory.slots.vacateWithin bound =
        (some handle, Slots.grow^[doublings] directory.slots)) ∧
      (∀ fewer < doublings, (Slots.grow^[fewer] directory.slots).Full) ∧
      ∀ occupant, (directory.register occupant).1 = some handle ∧
        (directory.register occupant).2.count = directory.count + 1 ∧
        (directory.register occupant).2.capacity = 2 ^ doublings * directory.capacity ∧
        (0 < doublings → (directory.register occupant).2.capacity ≤
          2 * (directory.register occupant).2.count) := by
  obtain ⟨doublings, few, bits, ⟨handle, vacant⟩, full, fits⟩ :=
    charted.placed.exists_doublings small room
  have vacates (bound : Nat) (enough : doublings ≤ bound) :=
    Slots.vacateWithin_of_vacant? vacant full enough
  refine ⟨doublings, few, handle, vacates, fun fewer less => ?_, fun occupant => ?_⟩
  · refine (Slots.vacant?_eq_none_iff ?_).1 (full fewer less)
    rw [Slots.bits_iterate_grow]
    omega
  · have vacated : directory.slots.vacate = (some handle, Slots.grow^[doublings] directory.slots) :=
      vacates _ (by omega)
    have issued : (directory.register occupant).1 = some handle := by
      rw [fst_register, Slots.register, vacated]
    have counted := charted.count_register issued
    have capacity : (directory.register occupant).2.capacity = 2 ^ doublings * directory.capacity := by
      have registered : (directory.slots.register occupant).1 = some handle := issued
      obtain ⟨_, capacity, _⟩ := Slots.register_of_vacate registered
      rw [vacated, Slots.capacity_iterate_grow] at capacity
      exact capacity
    refine ⟨issued, counted, capacity, fun doubled => ?_⟩
    rw [capacity, counted]
    exact fits doubled

/-- The slots are never more than at the beginning, unless half of them were occupied at one time. -/
theorem capacity_le_peak {count : Nat} (small : count ≤ 2 ^ 31) (cursor : UInt32)
    {calls : List (Call α)} (roomy : Roomy (.start count cursor) calls) :
    ((History.start count cursor).performAll calls).directory.capacity ≤
      max (History.start count cursor : History α).directory.capacity
        (2 * peak (.start count cursor) calls) := by
  induction calls using List.reverseRecOn with
  | nil => exact Nat.le_max_left _ _
  | append_singleton calls last ih =>
    let directory := ((History.start count cursor : History α).performAll calls).directory
    have before : directory.capacity ≤ _ := ih roomy.prefix
    have longer := peak_le_append (History.start count cursor) calls [last]
    have counted := count_le_peak (History.start count cursor) (calls ++ [last])
    rw [History.performAll_append] at counted ⊢
    cases last with
    | register occupant =>
      change (directory.register occupant).2.count ≤ _ at counted
      change (directory.register occupant).2.capacity ≤ _
      have few : directory.slots.bits ≤ 31 := bits_performAll_le small cursor roomy.prefix
      have room : directory.count < 2 ^ 31 - 1 := roomy calls occupant (List.prefix_refl _)
      have charted : directory.Charted _ := charted_performAll count cursor calls
      obtain ⟨doublings, _, _, _, _, registers⟩ := charted.exists_register few room
      obtain ⟨_, _, capacity, fits⟩ := registers occupant
      cases doublings with
      | zero =>
        rw [capacity, Nat.pow_zero, Nat.one_mul]
        omega
      | succ doublings =>
        have fits := fits (Nat.succ_pos doublings)
        omega
    | retire handle =>
      change (directory.retire handle).2.capacity ≤ _
      rw [capacity_retire]
      omega
    | bind handle name =>
      change (directory.call (.bind handle name)).2.slots.capacity ≤ _
      rw [slots_call_bind]
      change directory.capacity ≤ _
      omega

/-- Whatever was asked of a directory that began with some number of slots, rounded up to a power of
two: with less than half of the handles in use registering ends after two doublings at most, and the
slots double only if all of them are taken, or all but the one whose candidate is zero. There are
never more slots than at the beginning and twice as many as there were occupants at one time. -/
theorem slots_in_proportion {count : Nat} (small : count ≤ 2 ^ 31) (cursor : UInt32)
    (calls : List (Call α)) (roomy : Roomy (.start count cursor) calls) :
    let start : History α := .start count cursor
    let directory := (start.performAll calls).directory
    (directory.count < 2 ^ 31 - 1 → ∃ doublings ≤ 2, ∃ handle,
      (∀ bound, doublings ≤ bound → directory.slots.vacateWithin bound =
        (some handle, Slots.grow^[doublings] directory.slots)) ∧
      (∀ fewer < doublings, (Slots.grow^[fewer] directory.slots).Full) ∧
      ∀ occupant, (directory.register occupant).1 = some handle ∧
        (directory.register occupant).2.capacity = 2 ^ doublings * directory.capacity) ∧
    (∃ bits, start.directory.capacity = 2 ^ bits ∧ ∀ fewer, count ≤ 2 ^ fewer ↔ bits ≤ fewer) ∧
    directory.capacity ≤ max start.directory.capacity (2 * peak start calls) := by
  intro start directory
  refine ⟨fun room => ?_, ⟨ceilLog2 count, rfl, fun fewer => ceilLog2_le_iff.symm⟩,
    capacity_le_peak small cursor roomy⟩
  have few : directory.slots.bits ≤ 31 := bits_performAll_le small cursor roomy
  obtain ⟨doublings, most, handle, vacates, full, registers⟩ :=
    (charted_performAll count cursor calls).exists_register few room
  refine ⟨doublings, most, handle, vacates, full, fun occupant => ?_⟩
  obtain ⟨issued, _, capacity, _⟩ := registers occupant
  exact ⟨issued, capacity⟩

/-- Two slots double for a second occupant, since the one that is free is that of candidate zero. -/
theorem slots_in_proportion_at_wrap :
    let calls : List (Call Nat) := [.register 10, .register 20, .retire ⟨4294967294⟩]
    let directory := ((History.start 2 4294967293).performAll calls).directory
    2 ≤ 2 ^ 31 ∧ Roomy (.start 2 4294967293) calls ∧ directory.count < 2 ^ 31 - 1 ∧
      directory.count = 1 ∧ directory.capacity = 2 ∧ directory.slots.Full ∧
      (directory.register 30).2.capacity = 4 ∧
      directory.capacity ≤ 2 * peak (.start 2 4294967293) calls := by
  intro calls directory
  have roomy : Roomy (.start 2 4294967293) calls := roomy_of_length_lt (by decide)
  have room : directory.count < 2 ^ 31 - 1 := by decide +kernel
  obtain ⟨registers, _, bound⟩ := slots_in_proportion (by decide) 4294967293 calls roomy
  obtain ⟨doublings, most, handle, _, full, registered⟩ := registers room
  have doubled : (directory.register 30).2.capacity = 4 := by decide +kernel
  have positive : 0 < doublings := by
    refine Nat.pos_of_ne_zero fun zero => ?_
    have same := (registered 30).2
    rw [zero] at same
    exact absurd (same.symm.trans doubled) (by decide +kernel)
  exact ⟨by decide, roomy, room, by decide +kernel, by decide +kernel, full 0 positive, doubled,
    bound.trans (by decide +kernel)⟩

end Mailroom.Directory
