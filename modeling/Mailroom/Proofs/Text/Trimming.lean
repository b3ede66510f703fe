import Mailroom.Text.Blank
import Mathlib.Data.List.TakeWhile
/-! # What trimming leaves

A text is white space, a core that neither begins nor ends with white space, and white space again.
Trimming leaves that core, so a text is trimmed to one core only.
-/

namespace Mailroom.Text

variable {text core before after : List Char} {c : Char}

/-- A text that neither begins nor ends with white space. -/
structure Bare (text : List Char) : Prop where
  first (c : Char) (begins : text.head? = some c) : isBlank c = false
  last (c : Char) (ends : text.getLast? = some c) : isBlank c = false

/-- A core, and nothing but white space around it. -/
structure Trimmed (text core : List Char) : Prop where
  bare : Bare core
  around : ∃ before after, text = before ++ core ++ after ∧
    (∀ c ∈ before, isBlank c = true) ∧ ∀ c ∈ after, isBlank c = true

theorem bare_nil : Bare [] := ⟨nofun, nofun⟩

/-- A text without any white space has none at its ends. -/
theorem bare_of_forall (solid : ∀ c ∈ text, isBlank c = false) : Bare text where
  first c begins := solid c (List.mem_of_head? begins)
  last c ends := solid c (List.mem_of_getLast? ends)

/-! ### The two ends -/

theorem trimStart_eq_nil_iff : trimStart text = [] ↔ ∀ c ∈ text, isBlank c = true :=
  List.dropWhile_eq_nil_iff

theorem trimStart_eq_self (first : ∀ c, text.head? = some c → isBlank c = false) :
    trimStart text = text := by
  cases text with
  | nil => rfl
  | cons c rest => exact List.dropWhile_cons_of_neg (Bool.eq_false_iff.1 (first c rfl))

theorem first_trimStart (begins : (trimStart text).head? = some c) : isBlank c = false := by
  have solid := List.head?_dropWhile_not isBlank text
  rw [trimStart] at begins
  rwa [begins] at solid

theorem trimStart_append (blank : ∀ c ∈ before, isBlank c = true) :
    trimStart (before ++ text) = trimStart text :=
  List.dropWhile_append_of_pos blank

private theorem exists_trimStart (text : List Char) :
    ∃ before, text = before ++ trimStart text ∧ ∀ c ∈ before, isBlank c = true :=
  ⟨text.takeWhile isBlank, List.takeWhile_append_dropWhile.symm,
    fun _ member => List.mem_takeWhile_imp member⟩

/-- The end of a text is the beginning of the text read backwards. -/
theorem trimEnd_eq (text : List Char) : trimEnd text = (trimStart text.reverse).reverse := rfl

private theorem exists_trimEnd (text : List Char) :
    ∃ after, text = trimEnd text ++ after ∧ ∀ c ∈ after, isBlank c = true := by
  obtain ⟨before, parts, blank⟩ := exists_trimStart text.reverse
  refine ⟨before.reverse, ?_, fun c member => blank c (List.mem_reverse.1 member)⟩
  rw [trimEnd_eq, ← List.reverse_append, ← parts, List.reverse_reverse]

theorem trimEnd_append (blank : ∀ c ∈ after, isBlank c = true) :
    trimEnd (text ++ after) = trimEnd text := by
  rw [trimEnd_eq, List.reverse_append,
    trimStart_append fun c member => blank c (List.mem_reverse.1 member), ← trimEnd_eq]

private theorem trimEnd_eq_self (last : ∀ c, text.getLast? = some c → isBlank c = false) :
    trimEnd text = text := by
  rw [trimEnd_eq, trimStart_eq_self fun c begins => last c (List.head?_reverse ▸ begins),
    List.reverse_reverse]

/-! ### The core -/

theorem bare_trim (text : List Char) : Bare (trim text) where
  first c begins := by
    -- what is left begins as what is left of the beginning
    obtain ⟨after, parts, _⟩ := exists_trimEnd (trimStart text)
    have start : (trimStart text).head? = some c := by
      rw [parts, List.head?_append, ← trim, begins, Option.some_or]
    exact first_trimStart start
  last c ends := by
    rw [trim, trimEnd_eq, List.getLast?_reverse] at ends
    exact first_trimStart ends

theorem trim_eq_iff : trim text = core ↔ Trimmed text core := by
  constructor
  · rintro rfl
    obtain ⟨before, parts, blank⟩ := exists_trimStart text
    obtain ⟨after, parts', blank'⟩ := exists_trimEnd (trimStart text)
    refine ⟨bare_trim text, before, after, ?_, blank, blank'⟩
    rw [List.append_assoc, trim, ← parts', ← parts]
  · rintro ⟨bare, before, after, rfl, blank, blank'⟩
    cases core with
    | nil =>
      have nothing : trimStart after = [] := trimStart_eq_nil_iff.2 blank'
      rw [trim, List.append_nil, trimStart_append blank, nothing]
      rfl
    | cons c rest =>
      have kept : trimStart (c :: rest ++ after) = c :: rest ++ after :=
        trimStart_eq_self fun _ begins => bare.first _ begins
      rw [trim, List.append_assoc, trimStart_append blank, kept, trimEnd_append blank',
        trimEnd_eq_self bare.last]

/-- What is bare is left as it is. -/
theorem Bare.trim_eq (bare : Bare text) : trim text = text :=
  trim_eq_iff.2 ⟨bare, [], [], (List.append_nil _).symm, nofun, nofun⟩

/-! ### Cuts -/

theorem cut?_eq_none_iff {mark : Char → Bool} :
    cut? mark text = none ↔ ∀ c ∈ text, mark c = false := by
  induction text with
  | nil => simp [cut?]
  | cons c rest ih =>
    cases here : mark c with
    | true => simp [cut?, here]
    | false => simp [cut?, here, ih]

end Mailroom.Text
