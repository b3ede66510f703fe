/-! # White space and cutting text

The Unicode property White_Space decides what surrounds a command's argument, the first mark of a
kind cuts an argument in two, and separators cut a text into pieces. Everything works on lists of
characters; a string is cut by way of its characters.
-/

namespace Mailroom.Text

/-- The characters with the property White_Space, in ascending ranges with both ends included. -/
def blankRanges : List (Nat × Nat) :=
  [(0x9, 0xD), (0x20, 0x20), (0x85, 0x85), (0xA0, 0xA0), (0x1680, 0x1680), (0x2000, 0x200A),
    (0x2028, 0x2029), (0x202F, 0x202F), (0x205F, 0x205F), (0x3000, 0x3000)]

def isBlank (c : Char) : Bool :=
  blankRanges.any fun (low, high) => low ≤ c.toNat && c.toNat ≤ high

/-- The white space of ASCII: space, tab, line feed, form feed and carriage return. -/
def isAsciiBlank (c : Char) : Bool :=
  c = ' ' || c = '\t' || c = '\n' || c = '\x0c' || c = '\r'

def trimStart (text : List Char) : List Char := text.dropWhile isBlank

def trimEnd (text : List Char) : List Char := (text.reverse.dropWhile isBlank).reverse

/-- Removes the white space around a text and keeps the white space inside it. -/
def trim (text : List Char) : List Char := trimEnd (trimStart text)

/-- Cuts a text at its first character with the property, which belongs to neither part. -/
def cut? (mark : Char → Bool) : List Char → Option (List Char × List Char)
  | [] => none
  | c :: rest =>
    if mark c then some ([], rest)
    else (cut? mark rest).map fun (before, after) => (c :: before, after)

/-- The pieces of a text between separators, one more than there are separators. -/
def pieces (separator : Char) : List Char → List (List Char)
  | [] => [[]]
  | c :: rest =>
    if c = separator then [] :: pieces separator rest
    else
      match pieces separator rest with
      | [] => [[c]]
      | piece :: others => (c :: piece) :: others

/-- Removes one leading `c`, if there is one. -/
def dropLeading (c : Char) : List Char → List Char
  | [] => []
  | d :: rest => if d = c then rest else d :: rest

theorem isBlank_of_isAsciiBlank {c : Char} (blank : isAsciiBlank c = true) : isBlank c = true := by
  simp only [isAsciiBlank, Bool.or_eq_true, decide_eq_true_eq] at blank
  rcases blank with (((rfl | rfl) | rfl) | rfl) | rfl <;> rfl

/-- The two parts of a cut and the mark between them are the whole text, and no mark came
earlier. -/
theorem cut?_eq_some_iff {mark : Char → Bool} {text before after : List Char} :
    cut? mark text = some (before, after) ↔
      ∃ c, text = before ++ c :: after ∧ mark c = true ∧ ∀ d ∈ before, mark d = false := by
  induction text generalizing before with
  | nil => simp [cut?]
  | cons c rest ih =>
    by_cases here : mark c = true
    · simp only [cut?, here, if_true, Option.some.injEq, Prod.mk.injEq]
      constructor
      · rintro ⟨rfl, rfl⟩
        exact ⟨c, rfl, here, by simp⟩
      · rintro ⟨d, same, marked, earlier⟩
        cases before with
        | nil => simp_all
        | cons b bs =>
          have := earlier b (by simp)
          simp_all
    · simp only [cut?, here]
      cases found : cut? mark rest with
      | none =>
        simp only [Bool.false_eq_true, if_false, Option.map_none, reduceCtorEq, false_iff]
        rintro ⟨d, same, marked, earlier⟩
        cases before with
        | nil => simp_all
        | cons b bs =>
          simp only [List.cons_append, List.cons.injEq] at same
          have := (@ih bs).2
            ⟨d, same.2, marked, fun e member => earlier e (by simp [member])⟩
          simp [found] at this
      | some parts =>
        obtain ⟨left, right⟩ := parts
        simp only [Bool.false_eq_true, if_false, Option.map_some, Option.some.injEq, Prod.mk.injEq]
        constructor
        · rintro ⟨rfl, rfl⟩
          obtain ⟨d, same, marked, earlier⟩ := ih.1 found
          exact ⟨d, by simp [same], marked, by simpa [here] using earlier⟩
        · rintro ⟨d, same, marked, earlier⟩
          cases before with
          | nil => simp_all
          | cons b bs =>
            simp only [List.cons_append, List.cons.injEq] at same
            have := (@ih bs).2
              ⟨d, same.2, marked, fun e member => earlier e (by simp [member])⟩
            simp only [found, Option.some.injEq, Prod.mk.injEq] at this
            simp [same.1, this]

end Mailroom.Text
