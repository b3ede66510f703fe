import Mailroom.Proofs.Directory.Room
import Mathlib.Data.Finmap
/-! # Histories of a directory

Whatever was asked of a directory since it was empty, it answers as a finite map of handles to
occupants would: issuing a handle adds one key that was not there, and giving a handle up removes
just that key. The map is read off the calls and their answers alone.
-/

namespace Mailroom.Directory

variable {α : Type}

/-- What can be asked of a directory to change it. -/
inductive Call (α : Type) where
  | register (occupant : α)
  | retire (handle : Handle)
  | bind (handle : Handle) (name : String)

/-- How a call was answered. -/
inductive Result (α : Type) where
  | registered (handle : Option Handle)
  | retired (occupant : Option α)
  | bound (result : Except BindError Unit)

/-- Answers a call. One that fails leaves the directory as it is. -/
def call (directory : Directory α) : Call α → Result α × Directory α
  | .register occupant =>
    let issued := directory.register occupant
    (.registered issued.1, issued.2)
  | .retire handle =>
    let given := directory.retire handle
    (.retired given.1, given.2)
  | .bind handle name =>
    match directory.bind handle name with
    | .ok named => (.bound (.ok ()), named)
    | .error cause => (.bound (.error cause), directory)

/-- A directory and what was asked of it, newest first, with the answers. -/
structure History (α : Type) where
  directory : Directory α
  past : List (Call α × Result α)

namespace History

/-- Nobody is in the directory, wherever its cursor is. -/
def start (count : Nat) (cursor : UInt32) : History α :=
  { directory := (ofCount count).seek cursor, past := [] }

def perform (history : History α) (call : Call α) : History α where
  directory := (history.directory.call call).2
  past := (call, (history.directory.call call).1) :: history.past

/-- Performs calls, oldest first. -/
def performAll (history : History α) (calls : List (Call α)) : History α :=
  calls.foldl perform history

theorem performAll_append (history : History α) (earlier later : List (Call α)) :
    history.performAll (earlier ++ later) = (history.performAll earlier).performAll later :=
  List.foldl_append

end History

/-! ### The finite map -/

/-- Who has which handle after calls that were answered, newest first. -/
def chart : List (Call α × Result α) → Finmap fun _ : Handle => α
  | [] => ∅
  | (.register occupant, .registered (some handle)) :: older => (chart older).insert handle occupant
  | (.retire handle, _) :: older => (chart older).erase handle
  | _ :: older => chart older

/-- A directory is found to say what a finite map says. -/
structure Charted (directory : Directory α) (map : Finmap fun _ : Handle => α) : Prop where
  placed : directory.slots.Placed
  finds (handle : Handle) : directory.find? handle = map.lookup handle

namespace Charted

variable {directory : Directory α} {map : Finmap fun _ : Handle => α} {handle : Handle}

theorem contains_iff (charted : directory.Charted map) (handle : Handle) :
    directory.contains handle = true ↔ handle ∈ map := by
  rw [contains, charted.finds, Finmap.lookup_isSome]

private theorem nodup_handles (charted : directory.Charted map) : directory.handles.Nodup :=
  charted.placed.nodup_handles

private theorem toFinset_handles (charted : directory.Charted map) :
    directory.handles.toFinset = map.keys := by
  ext handle
  rw [List.mem_toFinset, mem_handles_iff _ _ charted.placed, Finmap.mem_keys, Finmap.mem_iff]
  simp only [charted.finds]

theorem count_eq (charted : directory.Charted map) : directory.count = map.keys.card := by
  rw [← charted.toFinset_handles, List.toFinset_card_of_nodup charted.nodup_handles, handles,
    List.length_map]
  rfl

private theorem start (count : Nat) (cursor : UInt32) :
    (History.start count cursor : History α).directory.Charted ∅ where
  placed := Slots.placed_ofCount count
  finds handle := by
    rw [Finmap.lookup_empty]
    exact Slots.find?_ofCount count handle

/-- A handle is issued that is not zero and not a key of the map. -/
theorem fresh (charted : directory.Charted map) {occupant : α}
    (issued : (directory.register occupant).1 = some handle) :
    handle.raw ≠ 0 ∧ handle ∉ map := by
  obtain ⟨_, registered⟩ := charted.placed.register occupant
  rw [← fst_register, issued] at registered
  refine ⟨registered.1, ?_⟩
  rw [← Finmap.lookup_eq_none, ← charted.finds]
  exact registered.2.1

theorem register (charted : directory.Charted map) {occupant : α}
    (issued : (directory.register occupant).1 = some handle) :
    (directory.register occupant).2.Charted (map.insert handle occupant) := by
  obtain ⟨placed, registered⟩ := charted.placed.register occupant
  rw [← fst_register, issued] at registered
  refine ⟨placed, fun other => (registered.2.2 other).trans ?_⟩
  split
  · rename_i same
    rw [same, Finmap.lookup_insert]
  · rename_i apart
    rw [Finmap.lookup_insert_of_ne _ apart]
    exact charted.finds other

private theorem registerNobody (charted : directory.Charted map) {occupant : α}
    (refused : (directory.register occupant).1 = none) :
    (directory.register occupant).2.Charted map := by
  obtain ⟨placed, registered⟩ := charted.placed.register occupant
  rw [← fst_register, refused] at registered
  exact ⟨placed, fun other => (registered other).trans (charted.finds other)⟩

private theorem retire (charted : directory.Charted map) (handle : Handle) :
    (directory.retire handle).2.Charted (map.erase handle) where
  placed := (directory.slots_retire handle).symm ▸ charted.placed.retire handle
  finds other := by
    rw [find?_retire]
    split
    · rename_i same
      rw [same, Finmap.lookup_erase]
    · rename_i apart
      rw [Finmap.lookup_erase_ne apart, charted.finds]

end Charted

/-- Binding a name moves nobody. -/
theorem slots_bind {directory named : Directory α} {handle : Handle} {name : String}
    (bound : directory.bind handle name = .ok named) : named.slots = directory.slots := by
  unfold bind at bound
  split at bound
  · exact nomatch bound
  · split at bound
    · exact nomatch bound
    · split at bound
      · exact nomatch bound
      · rw [← Except.ok.inj bound]

theorem slots_call_bind (directory : Directory α) (handle : Handle) (name : String) :
    (directory.call (.bind handle name)).2.slots = directory.slots := by
  dsimp only [call]
  split
  · rename_i bound
    exact slots_bind bound
  · rfl

/-- Each call changes the directory as it changes the map. -/
theorem Charted.perform {history : History α}
    (charted : history.directory.Charted (chart history.past)) (call : Call α) :
    (history.perform call).directory.Charted (chart (history.perform call).past) := by
  cases call with
  | register occupant =>
    dsimp only [History.perform, Directory.call]
    cases issued : (history.directory.register occupant).1 with
    | none => exact charted.registerNobody issued
    | some handle => exact charted.register issued
  | retire handle => exact charted.retire handle
  | bind handle name =>
    have same := slots_call_bind history.directory handle name
    have moved : (history.directory.call (.bind handle name)).2.Charted (chart history.past) := by
      refine ⟨same.symm ▸ charted.placed, fun other => ?_⟩
      rw [find?, same]
      exact charted.finds other
    exact moved

/-! ### Histories with room -/

/-- Whenever somebody is registered, less than half of the handles are in use. -/
def Roomy (history : History α) (calls : List (Call α)) : Prop :=
  ∀ earlier occupant, earlier ++ [.register occupant] <+: calls →
    (history.performAll earlier).directory.count < 2 ^ 31 - 1

theorem Roomy.prefix {history : History α} {calls : List (Call α)} {last : Call α}
    (roomy : Roomy history (calls ++ [last])) : Roomy history calls :=
  fun earlier occupant begins => roomy earlier occupant (begins.trans (List.prefix_append ..))

theorem charted_performAll (count : Nat) (cursor : UInt32) (calls : List (Call α)) :
    let history := (History.start count cursor : History α).performAll calls
    history.directory.Charted (chart history.past) := by
  induction calls using List.reverseRecOn with
  | nil => exact .start count cursor
  | append_singleton calls last ih =>
    rw [History.performAll_append]
    exact ih.perform last

private theorem card_chart_le (past : List (Call α × Result α)) :
    (chart past).keys.card ≤ past.length := by
  induction past using chart.induct with
  | case1 => exact Nat.le_refl _
  | case2 occupant handle older ih =>
    have keys : ((chart older).insert handle occupant).keys ⊆ insert handle (chart older).keys := by
      intro other member
      rw [Finmap.mem_keys, Finmap.mem_insert] at member
      rwa [Finset.mem_insert, Finmap.mem_keys]
    exact (Finset.card_le_card keys).trans
      ((Finset.card_insert_le ..).trans (Nat.succ_le_succ ih))
  | case3 handle result older ih =>
    rw [chart, Finmap.keys_erase]
    exact Finset.card_erase_le.trans (ih.trans (Nat.le_succ _))
  | case4 call older registered retired ih =>
    rw [chart.eq_4 _ _ registered retired]
    exact ih.trans (Nat.le_succ _)

private theorem length_past_performAll (history : History α) (calls : List (Call α)) :
    (history.performAll calls).past.length = history.past.length + calls.length := by
  induction calls generalizing history with
  | nil => rfl
  | cons call rest ih =>
    refine (ih (history.perform call)).trans ?_
    simp only [History.perform, List.length_cons]
    omega

/-- There is room for as many as the calls of any short history can register. -/
theorem roomy_of_length_lt {count : Nat} {cursor : UInt32} {calls : List (Call α)}
    (short : calls.length < 2 ^ 31) : Roomy (.start count cursor) calls := by
  intro earlier occupant begins
  have counted := (charted_performAll count cursor earlier).count_eq
  have most := card_chart_le ((History.start count cursor).performAll earlier).past
  rw [length_past_performAll] at most
  have fewer := begins.length_le
  rw [List.length_append] at fewer
  simp only [List.length_singleton] at fewer
  simp only [History.start, List.length_nil] at most counted ⊢
  omega

/-- There are never more slots than half of the handles. -/
theorem bits_performAll_le {count : Nat} (small : count ≤ 2 ^ 31) (cursor : UInt32)
    {calls : List (Call α)} (roomy : Roomy (.start count cursor) calls) :
    ((History.start count cursor).performAll calls).directory.slots.bits ≤ 31 := by
  induction calls using List.reverseRecOn with
  | nil => exact ceilLog2_le_iff.2 small
  | append_singleton calls last ih =>
    have few := ih roomy.prefix
    rw [History.performAll_append]
    cases last with
    | register occupant =>
      have room := roomy calls occupant (List.prefix_refl _)
      obtain ⟨_, _, fewer⟩ :=
        (charted_performAll count cursor calls).placed.exists_register few room occupant
      exact fewer
    | retire handle =>
      change (Directory.retire _ handle).2.slots.bits ≤ 31
      rwa [slots_retire, Slots.bits_retire]
    | bind handle name =>
      change ((Directory.call _ (.bind handle name)).2).slots.bits ≤ 31
      rwa [slots_call_bind]

/-- A directory stands for the finite map of its history: the slots are a power of two, everybody sits
in the slot of the handle's low bits and finds it free when the slots double, a new handle is neither
zero nor in use, and every question is answered as the map answers it. -/
theorem refines_finite_map {count : Nat} (small : count ≤ 2 ^ 31) (cursor : UInt32)
    (calls : List (Call α)) (roomy : Roomy (.start count cursor) calls) :
    let history := (History.start count cursor).performAll calls
    let directory := history.directory
    let map := chart history.past
    (∃ bits ≤ 31, directory.capacity = 2 ^ bits) ∧
    (∀ (index : Nat) (handle : Handle) (occupant : α),
      directory.slots.cells.toList[index]? = some (some (handle, occupant)) →
        index = (handle.raw &&& UInt32.ofNat (directory.capacity - 1)).toNat) ∧
    (∀ doublings, let grown := Slots.grow^[doublings] directory.slots
      (∀ earlier entry later, grown.entries = earlier ++ entry :: later →
        (earlier.foldl Slots.seat (Vector.replicate (twoPow (grown.bits + 1)) none))[
          Slots.slotOf (grown.bits + 1) entry.1] = none) ∧
      grown.grow.entries.Perm grown.entries ∧
      ∀ handle, grown.grow.find? handle = grown.find? handle) ∧
    (∀ occupant, directory.count < 2 ^ 31 - 1 → ∃ handle,
      (directory.register occupant).1 = some handle ∧ handle.raw ≠ 0 ∧ handle ∉ map) ∧
    (∀ handle, directory.find? handle = map.lookup handle) ∧
    (∀ handle, directory.contains handle = true ↔ handle ∈ map) ∧
    directory.count = map.keys.card ∧
    directory.handles.Nodup ∧ directory.handles.toFinset = map.keys := by
  intro history directory map
  have charted : directory.Charted map := charted_performAll count cursor calls
  have few : directory.slots.bits ≤ 31 := bits_performAll_le small cursor roomy
  refine ⟨⟨_, few, rfl⟩, ?_, ?_, ?_, charted.finds, charted.contains_iff, charted.count_eq,
    charted.nodup_handles, charted.toFinset_handles⟩
  · intro index handle occupant sits
    obtain ⟨bound, sits⟩ := List.getElem?_eq_some_iff.1 sits
    rw [Vector.getElem_toList] at sits
    rw [Vector.length_toList] at bound
    have named := charted.placed ⟨index, bound⟩ _ sits
    exact (congrArg Fin.val named).symm.trans (Slots.toNat_and_mask (by omega) handle).symm
  · intro doublings
    have placed : (Slots.grow^[doublings] directory.slots).Placed := by
      cases doublings with
      | zero => exact charted.placed
      | succ doublings =>
        rw [Function.iterate_succ_apply']
        exact Slots.placed_grow _
    exact ⟨fun _ _ _ => placed.getElem_seating, placed.perm_entries_grow, placed.find?_grow⟩
  · intro occupant room
    obtain ⟨handle, issued, _⟩ := charted.placed.exists_register few room occupant
    exact ⟨handle, issued, charted.fresh issued⟩

/-- One slot doubles, and the handle behind the wrap takes over the slot of the one before it. -/
theorem refines_finite_map_across_wrap :
    let calls : List (Call Nat) := [.register 10, .register 20, .retire ⟨4294967295⟩,
      .bind ⟨2⟩ "gate", .register 30]
    let history := (History.start 1 4294967295).performAll calls
    1 ≤ 2 ^ 31 ∧ Roomy (.start 1 4294967295) calls ∧
      history.directory.handles = [⟨2⟩, ⟨3⟩] ∧
      (chart history.past).lookup ⟨4294967295⟩ = none ∧
      (chart history.past).lookup ⟨3⟩ = some 30 := by
  intro calls history
  have roomy : Roomy (.start 1 4294967295) calls := roomy_of_length_lt (by decide)
  obtain ⟨_, _, _, _, finds, _⟩ := refines_finite_map (by decide) 4294967295 calls roomy
  refine ⟨by decide, roomy, by decide +kernel, ?_, ?_⟩
  · exact (finds ⟨4294967295⟩).symm.trans (by decide +kernel)
  · exact (finds ⟨3⟩).symm.trans (by decide +kernel)

end Mailroom.Directory
