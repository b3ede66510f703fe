import Mailroom.Proofs.Directory.History
/-! # What a name resolves to

The names stay in ascending order and bound to handles in use, so halving the range finds each of
them. A name resolves to the handle that it was last bound to, for as long as that handle was not
given up; nobody can bind it to another one meanwhile.
-/

namespace Mailroom.Directory

namespace Names

variable {names : Names} {name : String} {handle : Handle}

/-- The names are in ascending order, and no two are the same. -/
def Sorted (names : Names) : Prop :=
  names.entries.toList.Pairwise fun first second => first.1 < second.1

private theorem Sorted.lt_of_lt (sorted : names.Sorted) {first second : Nat}
    (order : first < second) (inside : second < names.entries.size) :
    names.entries[first].1 < names.entries[second].1 :=
  List.pairwise_iff_getElem.1 sorted first second (Nat.lt_trans order inside) inside order

/-- Halving finds where the names that are not below `name` begin, if it begins with a range behind
which there are no others. -/
theorem search_spec (sorted : names.Sorted) {low high : Nat} (bound : high ≤ names.entries.size)
    (ordered : low ≤ high)
    (below : ∀ index (inside : index < names.entries.size), index < low →
      names.entries[index].1 < name)
    (above : ∀ index (inside : index < names.entries.size), high ≤ index →
      ¬names.entries[index].1 < name) :
    search names.entries name low high bound ≤ names.entries.size ∧
    (∀ index (inside : index < names.entries.size),
      index < search names.entries name low high bound ↔ names.entries[index].1 < name) := by
  fun_induction search names.entries name low high bound with
  | case1 low high bound apart inside less ih =>
    refine ih (by omega) (fun index within before => ?_) above
    obtain early | rfl : index < (low + high) / 2 ∨ index = (low + high) / 2 := by omega
    · exact String.lt_trans (sorted.lt_of_lt early inside) less
    · exact less
  | case2 low high bound apart inside notLess ih =>
    refine ih (by omega) below fun index within behind => ?_
    obtain late | rfl : (low + high) / 2 < index ∨ (low + high) / 2 = index := by omega
    · exact fun less => notLess (String.lt_trans (sorted.lt_of_lt late within) less)
    · exact notLess
  | case3 low high bound together =>
    have same : low = high := by omega
    subst same
    refine ⟨bound, fun index inside => ⟨below index inside, fun less => ?_⟩⟩
    by_contra behind
    exact above index inside (by omega) less

/-- The position of a name parts the names below it from the others. -/
theorem Sorted.position_parts (sorted : names.Sorted) (name : String) :
    ∃ before behind, names.entries.toList = before ++ behind ∧
      before.length = names.position name ∧ (∀ entry ∈ before, entry.1 < name) ∧
      ∀ entry ∈ behind, ¬entry.1 < name := by
  have nothing (index : Nat) (inside : index < names.entries.size) (below : index < 0) :
      names.entries[index].1 < name := absurd below (Nat.not_lt_zero _)
  have nobody (index : Nat) (inside : index < names.entries.size)
      (behind : names.entries.size ≤ index) : ¬names.entries[index].1 < name :=
    absurd inside (Nat.not_lt.2 behind)
  obtain ⟨within, parts⟩ := search_spec sorted (Nat.le_refl _) (Nat.zero_le _) nothing nobody
  rw [← position] at within parts
  refine ⟨names.entries.toList.take (names.position name),
    names.entries.toList.drop (names.position name), (List.take_append_drop ..).symm, ?_, ?_, ?_⟩
  · rw [List.length_take, Array.length_toList]
    omega
  · intro entry member
    obtain ⟨index, inside, rfl⟩ := List.mem_take_iff_getElem.1 member
    rw [Array.length_toList] at inside
    rw [Array.getElem_toList]
    exact (parts index (by omega)).1 (by omega)
  · intro entry member
    obtain ⟨index, inside, rfl⟩ := List.mem_drop_iff_getElem.1 member
    rw [Array.length_toList] at inside
    rw [Array.getElem_toList]
    intro less
    have early := (parts _ (by omega)).2 less
    omega

private theorem find?_eq (names : Names) {before behind : List (String × Handle)}
    (parts : names.entries.toList = before ++ behind)
    (here : before.length = names.position name) :
    names.find? name =
      behind.head?.bind fun entry => if entry.1 = name then some entry.2 else none := by
  have there : names.entries[names.position name]? = behind.head? := by
    rw [← Array.getElem?_toList, parts, ← here, List.getElem?_append_right (Nat.le_refl _),
      Nat.sub_self, List.head?_eq_getElem?]
  rw [find?, there]
  cases behind <;> rfl

/-- Halving misses no name. -/
theorem Sorted.find?_eq_some_iff (sorted : names.Sorted) :
    names.find? name = some handle ↔ (name, handle) ∈ names.entries.toList := by
  obtain ⟨before, behind, parts, here, below, above⟩ := sorted.position_parts name
  have early : (name, handle) ∉ before := fun member => String.lt_irrefl _ (below _ member)
  rw [find?_eq names parts here, parts, List.mem_append, or_iff_right early]
  cases behind with
  | nil => simp
  | cons first rest =>
    obtain ⟨bound, holder⟩ := first
    rw [Sorted, parts, List.pairwise_append, List.pairwise_cons] at sorted
    have late : bound = name → (name, handle) ∉ rest := by
      rintro rfl member
      exact String.lt_irrefl _ (sorted.2.1.1 (_, handle) member)
    have passed : bound ≠ name → (name, handle) ∉ rest := by
      intro other member
      exact above _ List.mem_cons_self (sorted.2.1.1 _ member)
    by_cases same : bound = name
    · simp [same, late same, eq_comm]
    · simp [same, passed same, Ne.symm same]

theorem Sorted.find?_eq_none_iff (sorted : names.Sorted) :
    names.find? name = none ↔ ∀ handle, (name, handle) ∉ names.entries.toList := by
  simp only [Option.eq_none_iff_forall_ne_some, ne_eq, sorted.find?_eq_some_iff]

/-! ### Binding a name -/

private theorem insertIdx_append {α : Type} (before behind : List α) (entry : α) :
    (before ++ behind).insertIdx before.length entry = before ++ entry :: behind := by
  induction before with
  | nil => rfl
  | cons first rest ih => simp [List.insertIdx_succ_cons, ih]

/-- A name is put between the names below it and the others. -/
theorem Sorted.toList_insert (sorted : names.Sorted) (name : String) (handle : Handle) :
    ∃ before behind, names.entries.toList = before ++ behind ∧
      (names.insert name handle).entries.toList = before ++ (name, handle) :: behind ∧
      (∀ entry ∈ before, entry.1 < name) ∧ ∀ entry ∈ behind, ¬entry.1 < name := by
  obtain ⟨before, behind, parts, here, below, above⟩ := sorted.position_parts name
  refine ⟨before, behind, parts, ?_, below, above⟩
  have within : names.position name ≤ names.entries.size := by
    rw [← here, ← Array.length_toList, parts, List.length_append]
    omega
  rw [insert, Array.insertIdxIfInBounds, dif_pos within, Array.toList_insertIdx, parts, ← here,
    insertIdx_append]

theorem Sorted.mem_insert_iff (sorted : names.Sorted) (name : String) (handle : Handle)
    (entry : String × Handle) :
    entry ∈ (names.insert name handle).entries.toList ↔
      entry = (name, handle) ∨ entry ∈ names.entries.toList := by
  obtain ⟨before, behind, parts, inserted, _⟩ := sorted.toList_insert name handle
  rw [parts, inserted]
  simp only [List.mem_append, List.mem_cons]
  tauto

private theorem Sorted.insert (sorted : names.Sorted) (free : names.find? name = none)
    (handle : Handle) : (names.insert name handle).Sorted := by
  rw [sorted.find?_eq_none_iff] at free
  obtain ⟨before, behind, parts, inserted, below, above⟩ := sorted.toList_insert name handle
  rw [Sorted, parts] at sorted
  rw [Sorted, inserted]
  rw [parts] at free
  obtain ⟨first, second, across⟩ := List.pairwise_append.1 sorted
  refine List.pairwise_append.2 ⟨first, List.pairwise_cons.2 ⟨?_, second⟩, ?_⟩
  · rintro ⟨other, holder⟩ member
    obtain less | same | greater := Std.lt_trichotomy other name
    · exact absurd less (above _ member)
    · exact absurd (List.mem_append_right before (same ▸ member)) (free holder)
    · exact greater
  · intro entry member other behind
    rw [List.mem_cons] at behind
    obtain rfl | later := behind
    · exact below entry member
    · exact across entry member other later

/-! ### Forgetting a handle -/

theorem toList_forget (names : Names) (handle : Handle) :
    (names.forget handle).entries.toList =
      names.entries.toList.filter fun entry => entry.2 ≠ handle := by
  rw [forget, Array.toList_filter]

/-! ### The names of a handle -/

theorem mem_namesOf_iff (names : Names) (handle : Handle) (name : String) :
    name ∈ names.namesOf handle ↔ (name, handle) ∈ names.entries.toList := by
  simp [namesOf]

private theorem Sorted.pairwise_namesOf (sorted : names.Sorted) (handle : Handle) :
    (names.namesOf handle).Pairwise (· < ·) := by
  rw [namesOf, List.pairwise_map]
  exact sorted.filter _

end Names

variable {α : Type} {directory named : Directory α} {name : String} {handle : Handle}

/-- Only a name that is not empty and not bound can be bound, and only to a handle in use. -/
theorem bind_eq_ok_iff :
    directory.bind handle name = .ok named ↔
      name ≠ "" ∧ directory.contains handle = true ∧ directory.findName? name = none ∧
        named = { directory with names := directory.names.insert name handle } := by
  unfold bind
  split
  · rename_i empty
    simp [empty]
  · rename_i filled
    split
    · rename_i stale
      rw [Bool.not_eq_true'] at stale
      simp [stale]
    · rename_i live
      rw [Bool.not_eq_true', Bool.not_eq_false] at live
      split
      · rename_i taken
        simp [Option.ne_none_iff_isSome.2 taken]
      · rename_i free
        rw [Bool.not_eq_true, Option.isSome_eq_false_iff, Option.isNone_iff_eq_none] at free
        simp only [Except.ok.injEq, ne_eq, filled, not_false_iff, live, free, true_and]
        exact eq_comm

private theorem call_bind_of_ok (bound : directory.bind handle name = .ok named) :
    directory.call (.bind handle name) = (.bound (.ok ()), named) := by
  rw [call, bound]

private theorem call_bind_of_error {cause : BindError}
    (refused : directory.bind handle name = .error cause) :
    directory.call (.bind handle name) = (.bound (.error cause), directory) := by
  rw [call, refused]

private theorem names_register (occupant : α) :
    (directory.register occupant).2.names = directory.names := rfl

private theorem names_retire (directory : Directory α) (handle : Handle) :
    (directory.retire handle).2.names =
      if directory.contains handle then directory.names.forget handle else directory.names := by
  rw [contains, find?, ← Slots.retire_fst]
  obtain ⟨slots, names⟩ := directory
  rcases retired : slots.retire handle with ⟨_ | _, left⟩ <;> simp [retire, retired]

/-- The names are in order, none is empty, and each of them is bound to a handle in use. -/
structure Named (directory : Directory α) : Prop where
  placed : directory.slots.Placed
  sorted : directory.names.Sorted
  filled (name : String) (handle : Handle)
    (bound : (name, handle) ∈ directory.names.entries.toList) : name ≠ ""
  live (name : String) (handle : Handle)
    (bound : (name, handle) ∈ directory.names.entries.toList) : directory.contains handle = true

namespace Named

theorem start (count : Nat) (cursor : UInt32) :
    (History.start count cursor : History α).directory.Named where
  placed := Slots.placed_ofCount count
  sorted := .nil
  filled _ _ bound := nomatch bound
  live _ _ bound := nomatch bound

theorem findName?_eq_some_iff (inOrder : directory.Named) :
    directory.findName? name = some handle ↔ (name, handle) ∈ directory.names.entries.toList :=
  inOrder.sorted.find?_eq_some_iff

theorem mem_namesOf_iff (inOrder : directory.Named) :
    name ∈ directory.namesOf handle ↔ directory.findName? name = some handle := by
  rw [inOrder.findName?_eq_some_iff]
  exact directory.names.mem_namesOf_iff handle name

/-- A handle that is not in use has no names. -/
theorem namesOf_eq_nil (inOrder : directory.Named) (gone : directory.contains handle = false) :
    directory.namesOf handle = [] := by
  rw [List.eq_nil_iff_forall_not_mem]
  intro name member
  rw [inOrder.mem_namesOf_iff, inOrder.findName?_eq_some_iff] at member
  exact Bool.false_ne_true (gone.symm.trans (inOrder.live name handle member))

/-- Giving up a handle removes its names, and keeps the others and their order. -/
theorem toList_retire (inOrder : directory.Named) (handle : Handle) :
    (directory.retire handle).2.names.entries.toList =
      directory.names.entries.toList.filter fun entry => entry.2 ≠ handle := by
  rw [names_retire]
  split
  · exact directory.names.toList_forget handle
  · rename_i gone
    refine (List.filter_eq_self.2 ?_).symm
    rintro ⟨name, holder⟩ member
    rw [decide_eq_true_iff]
    rintro rfl
    exact gone (inOrder.live name _ member)

theorem register (inOrder : directory.Named) (occupant : α) :
    (directory.register occupant).2.Named where
  placed := (inOrder.placed.register occupant).1
  sorted := inOrder.sorted
  filled := inOrder.filled
  live name handle bound := by
    have before := inOrder.live name handle bound
    obtain ⟨_, registered⟩ := inOrder.placed.register occupant
    have kept : directory.contains handle = true →
        ((directory.slots.register occupant).2.find? handle).isSome = true := by
      cases issued : (directory.slots.register occupant).1 with
      | none =>
        rw [issued] at registered
        rw [registered handle]
        exact id
      | some fresh =>
        rw [issued] at registered
        rw [registered.2.2 handle]
        split
        · exact fun _ => rfl
        · exact id
    exact kept before

theorem retire (inOrder : directory.Named) (handle : Handle) :
    (directory.retire handle).2.Named := by
  have names := inOrder.toList_retire handle
  refine ⟨?_, ?_, ?_, ?_⟩
  · rw [slots_retire]
    exact inOrder.placed.retire handle
  · rw [Names.Sorted, names]
    exact inOrder.sorted.filter _
  · intro name holder bound
    rw [names, List.mem_filter] at bound
    exact inOrder.filled name holder bound.1
  · intro name holder bound
    rw [names, List.mem_filter, decide_eq_true_iff] at bound
    rw [contains, find?_retire, if_neg bound.2]
    exact inOrder.live name holder bound.1

theorem bind (inOrder : directory.Named) (bound : directory.bind handle name = .ok named) :
    named.Named := by
  obtain ⟨filled, live, free, rfl⟩ := bind_eq_ok_iff.1 bound
  have member (entry : String × Handle) := inOrder.sorted.mem_insert_iff name handle entry
  refine ⟨inOrder.placed, inOrder.sorted.insert free handle, ?_, ?_⟩
  · intro other holder kept
    obtain same | old := (member _).1 kept
    · obtain ⟨rfl, rfl⟩ := Prod.mk.inj same
      exact filled
    · exact inOrder.filled other holder old
  · intro other holder kept
    obtain same | old := (member _).1 kept
    · obtain ⟨rfl, rfl⟩ := Prod.mk.inj same
      exact live
    · exact inOrder.live other holder old

private theorem call (inOrder : directory.Named) (call : Call α) :
    (directory.call call).2.Named := by
  cases call with
  | register occupant => exact inOrder.register occupant
  | retire handle => exact inOrder.retire handle
  | bind handle name =>
    cases bound : directory.bind handle name with
    | ok named =>
      rw [call_bind_of_ok bound]
      exact inOrder.bind bound
    | error cause =>
      rw [call_bind_of_error bound]
      exact inOrder

end Named

/-! ### What the past says of a name -/

/-- A name was bound to a handle, and the handle was not given up since. -/
def Stands (past : List (Call α × Result α)) (name : String) (handle : Handle) : Prop :=
  ∃ later earlier, past = later ++ (.bind handle name, .bound (.ok ())) :: earlier ∧
    ∀ result, (.retire handle, result) ∉ later

private theorem stands_cons_iff {entry : Call α × Result α} {past : List (Call α × Result α)} :
    Stands (entry :: past) name handle ↔
      entry = (.bind handle name, .bound (.ok ())) ∨
        (∀ result, entry ≠ (.retire handle, result)) ∧ Stands past name handle := by
  constructor
  · rintro ⟨later, earlier, order, kept⟩
    cases later with
    | nil => exact .inl (List.cons.inj order).1
    | cons newest later =>
      obtain ⟨rfl, older⟩ := List.cons.inj order
      refine .inr ⟨fun result same => kept result (same ▸ List.mem_cons_self), later, earlier, older,
        fun result member => kept result (List.mem_cons_of_mem _ member)⟩
  · rintro (rfl | ⟨other, later, earlier, rfl, kept⟩)
    · exact ⟨[], past, rfl, fun _ member => nomatch member⟩
    · refine ⟨entry :: later, earlier, rfl, fun result member => ?_⟩
      obtain same | old := List.mem_cons.1 member
      · exact other result same.symm
      · exact kept result old

/-- The names resolve as the past says, and no name was bound twice without being free between. -/
structure History.Resolved (history : History α) : Prop where
  inOrder : history.directory.Named
  resolves (name : String) (handle : Handle) :
    history.directory.findName? name = some handle ↔ Stands history.past name handle
  once (later earlier : List (Call α × Result α)) (name : String) (handle : Handle)
    (order : history.past = later ++ (.bind handle name, .bound (.ok ())) :: earlier)
    (kept : ∀ result, (.retire handle, result) ∉ later) (other : Handle) :
    (.bind other name, .bound (.ok ())) ∉ later

namespace History

variable {history : History α}

private theorem resolved_start (count : Nat) (cursor : UInt32) :
    (start count cursor : History α).Resolved where
  inOrder := .start count cursor
  resolves name handle := by
    rw [(Named.start count cursor).findName?_eq_some_iff]
    constructor
    · exact fun bound => nomatch bound
    · rintro ⟨later, earlier, order, _⟩
      exact absurd order (by simp [start])
  once later earlier name handle order := absurd order (by simp [start])

/-- What stands after a call is what stood before it, but for a name that the call binds and those of
a handle that it gives up. -/
theorem Resolved.resolves_perform (resolved : history.Resolved) (call : Call α) (name : String)
    (handle : Handle) :
    (history.perform call).directory.findName? name = some handle ↔
      Stands (history.perform call).past name handle := by
  have before := resolved.resolves name handle
  dsimp only [perform]
  rw [stands_cons_iff, (resolved.inOrder.call call).findName?_eq_some_iff]
  rw [resolved.inOrder.findName?_eq_some_iff] at before
  cases call with
  | register occupant =>
    dsimp only [Directory.call]
    rw [names_register, before]
    simp
  | retire given =>
    have names := resolved.inOrder.toList_retire given
    simp only [Directory.call]
    rw [names, List.mem_filter, decide_eq_true_iff, before]
    simp only [Prod.mk.injEq, reduceCtorEq, false_and, false_or, Call.retire.injEq, ne_eq, not_and]
    constructor
    · rintro ⟨stood, other⟩
      exact ⟨fun _ same => absurd same.symm other, stood⟩
    · rintro ⟨other, stood⟩
      exact ⟨stood, fun same => other _ same.symm rfl⟩
  | bind holder label =>
    cases bound : history.directory.bind holder label with
    | ok named =>
      obtain ⟨_, _, _, rfl⟩ := bind_eq_ok_iff.1 bound
      rw [call_bind_of_ok bound, resolved.inOrder.sorted.mem_insert_iff, before]
      simp only [Prod.mk.injEq, Call.bind.injEq, reduceCtorEq, false_and, ne_eq, not_false_iff,
        implies_true, true_and, and_true]
      tauto
    | error cause =>
      rw [call_bind_of_error bound, before]
      simp

theorem Resolved.perform (resolved : history.Resolved) (call : Call α) :
    (history.perform call).Resolved where
  inOrder := resolved.inOrder.call call
  resolves := resolved.resolves_perform call
  once later earlier name handle order kept other := by
    cases later with
    | nil => exact List.not_mem_nil
    | cons newest later =>
      obtain ⟨rfl, older⟩ := List.cons.inj order
      have kept' (result : Result α) : (.retire handle, result) ∉ later :=
        fun member => kept result (List.mem_cons_of_mem _ member)
      have stood := (resolved.resolves name handle).2 ⟨later, earlier, older, kept'⟩
      rw [List.mem_cons, not_or]
      refine ⟨fun same => ?_, resolved.once later earlier name handle older kept' other⟩
      obtain ⟨rfl, answered⟩ := Prod.mk.inj same
      cases bound : history.directory.bind other name with
      | ok named => exact nomatch stood.symm.trans (bind_eq_ok_iff.1 bound).2.2.1
      | error cause =>
        rw [call_bind_of_error bound] at answered
        exact nomatch answered

private theorem resolved_performAll (count : Nat) (cursor : UInt32) (calls : List (Call α)) :
    ((start count cursor).performAll calls).Resolved :=
  List.foldlRecOn calls perform (resolved_start count cursor)
    fun _ resolved call _ => resolved.perform call

end History

/-- After any history the names are in strict order, none is empty and each is bound to a handle in
use; a name resolves to the handle of its one successful binding since it was free; the names of a
handle are those that resolve to it, in order; giving up a handle removes just these; a call that
fails changes nothing; and whoever is issued a handle has no names. -/
theorem names_resolve_as_bound (count : Nat) (cursor : UInt32) (calls : List (Call α)) :
    let history := (History.start count cursor).performAll calls
    let directory := history.directory
    let entries := directory.names.entries.toList
    (entries.Pairwise fun first second => first.1 < second.1) ∧
    (∀ name handle, (name, handle) ∈ entries →
      name ≠ "" ∧ directory.contains handle = true) ∧
    (∀ name handle, directory.findName? name = some handle ↔
      Stands history.past name handle) ∧
    (∀ later earlier name handle,
      history.past = later ++ (.bind handle name, .bound (.ok ())) :: earlier →
      (∀ result, (.retire handle, result) ∉ later) →
        ∀ other, (.bind other name, .bound (.ok ())) ∉ later) ∧
    (∀ handle, (directory.namesOf handle).Pairwise (· < ·) ∧
      ∀ name, name ∈ directory.namesOf handle ↔ directory.findName? name = some handle) ∧
    (∀ handle, (directory.retire handle).2.names.entries.toList =
      entries.filter fun entry => entry.2 ≠ handle) ∧
    (∀ handle name cause, (directory.call (.bind handle name)).1 = .bound (.error cause) →
      (directory.call (.bind handle name)).2 = directory) ∧
    (∀ occupant handle, (directory.register occupant).1 = some handle →
      (directory.register occupant).2.namesOf handle = []) := by
  intro history directory entries
  have resolved : history.Resolved := History.resolved_performAll count cursor calls
  have inOrder : directory.Named := resolved.inOrder
  refine ⟨inOrder.sorted, fun name handle bound => ⟨inOrder.filled name handle bound,
    inOrder.live name handle bound⟩, resolved.resolves, resolved.once, fun handle =>
    ⟨inOrder.sorted.pairwise_namesOf handle, fun _ => inOrder.mem_namesOf_iff⟩,
    inOrder.toList_retire, ?_, ?_⟩
  · intro handle name cause answered
    cases bound : directory.bind handle name with
    | ok named =>
      rw [call_bind_of_ok bound] at answered
      exact nomatch answered
    | error cause => rw [call_bind_of_error bound]
  · intro occupant handle issued
    have charted : directory.Charted (chart history.past) := charted_performAll count cursor calls
    have fresh := charted.fresh issued
    rw [← charted.contains_iff, Bool.not_eq_true] at fresh
    exact inOrder.namesOf_eq_nil fresh.2

end Mailroom.Directory
