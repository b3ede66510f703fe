import Mailroom.Text.Numeral
import Mathlib.Data.List.Forall2
import Mathlib.Data.Nat.Digits.Defs
/-! # What numerals are read

Reading looks at one digit after the other and breaks off at the first number out of the range. The
numbers on the way only grow, so a numeral is read just if the number that all its digits denote is in
the range, however many digits there are.
-/

namespace Mailroom.Text

variable {radix limit value n : Nat} {overflow : NumeralError} {digits text : List Char}

/-- Digits of a radix, the most significant in front, and the number that they denote. -/
structure Denotes (radix : Nat) (digits : List Char) (n : Nat) : Prop where
  valued : ∃ values, List.Forall₂ (fun c value => digit? radix c = some value) digits values ∧
    n = Nat.ofDigits radix values.reverse

theorem denotes_nil_iff : Denotes radix [] n ↔ n = 0 := by
  constructor
  · rintro ⟨values, none, rfl⟩
    obtain rfl := List.forall₂_nil_left_iff.1 none
    rfl
  · rintro rfl
    exact ⟨[], .nil, rfl⟩

/-- The first digit counts as many times as the places behind it say. -/
theorem denotes_cons_iff {c : Char} :
    Denotes radix (c :: digits) n ↔ ∃ first rest, digit? radix c = some first ∧
      Denotes radix digits rest ∧ n = radix ^ digits.length * first + rest := by
  have last (first : Nat) (others : List Nat) : Nat.ofDigits radix (first :: others).reverse =
      radix ^ others.length * first + Nat.ofDigits radix others.reverse := by
    rw [List.reverse_cons, Nat.ofDigits_append, Nat.ofDigits_singleton, List.length_reverse,
      Nat.add_comm]
  constructor
  · rintro ⟨values, each, rfl⟩
    obtain ⟨first, others, digit, behind, rfl⟩ := List.forall₂_cons_left_iff.1 each
    exact ⟨first, _, digit, ⟨others, behind, rfl⟩, behind.length_eq ▸ last first others⟩
  · rintro ⟨first, rest, digit, ⟨others, behind, rfl⟩, rfl⟩
    exact ⟨first :: others, .cons digit behind, behind.length_eq ▸ (last first others).symm⟩

/-- Reading goes on to the end just if the last number is within the limit, and yields that number. -/
theorem readDigits_eq_ok_iff (positive : 0 < radix) (within : value ≤ limit) :
    readDigits radix limit overflow value digits = .ok n ↔
      ∃ rest, Denotes radix digits rest ∧ n = radix ^ digits.length * value + rest ∧ n ≤ limit := by
  induction digits generalizing value with
  | nil =>
    simp only [readDigits, Except.ok.injEq, denotes_nil_iff, exists_eq_left, List.length_nil,
      Nat.pow_zero, Nat.one_mul, Nat.add_zero]
    constructor
    · rintro rfl
      exact ⟨rfl, within⟩
    · rintro ⟨rfl, _⟩
      rfl
  | cons c others ih =>
    cases digit : digit? radix c with
    | none => simp [readDigits, digit, denotes_cons_iff]
    | some first =>
      -- what is read behind the first digit continues from the number up to it
      have shifted (rest : Nat) :
          radix ^ (others.length + 1) * value + (radix ^ others.length * first + rest) =
            radix ^ others.length * (radix * value + first) + rest := by
        rw [Nat.pow_succ, Nat.mul_assoc, Nat.mul_add, Nat.add_assoc]
      simp only [readDigits, digit, denotes_cons_iff, Option.some.injEq, List.length_cons]
      split
      · rename_i small
        rw [ih small]
        constructor
        · rintro ⟨rest, denotes, rfl, bound⟩
          exact ⟨_, ⟨first, rest, rfl, denotes, rfl⟩, (shifted rest).symm, bound⟩
        · rintro ⟨_, ⟨_, rest, rfl, denotes, rfl⟩, same, bound⟩
          exact ⟨rest, denotes, same.trans (shifted rest), bound⟩
      · rename_i large
        simp only [reduceCtorEq, false_iff]
        rintro ⟨_, ⟨_, rest, rfl, denotes, rfl⟩, same, bound⟩
        rw [shifted] at same
        have grows : radix * value + first ≤
            radix ^ others.length * (radix * value + first) :=
          Nat.le_mul_of_pos_left _ (Nat.pow_pos positive)
        omega

/-- After a sign there is at least one digit. -/
theorem readMagnitude_eq_ok_iff (positive : 0 < radix) :
    readMagnitude radix limit overflow digits = .ok n ↔
      digits ≠ [] ∧ Denotes radix digits n ∧ n ≤ limit := by
  unfold readMagnitude
  split
  · simp
  · rename_i filled
    rw [readDigits_eq_ok_iff positive (Nat.zero_le limit)]
    simp only [Nat.mul_zero, Nat.zero_add]
    constructor
    · rintro ⟨rest, denotes, rfl, bound⟩
      exact ⟨filled, denotes, bound⟩
    · rintro ⟨_, denotes, bound⟩
      exact ⟨n, denotes, rfl, bound⟩

/-- A plus sign is no digit of any radix. -/
theorem digit?_plus (radix : Nat) : digit? radix '+' = none := rfl

/-- What is read as a natural number is at least one digit, perhaps behind a plus sign, and the number
is the one that the digits denote. -/
theorem readNatural_eq_ok_iff (positive : 0 < radix) :
    readNatural radix limit text = .ok n ↔
      ∃ digits, (text = digits ∨ text = '+' :: digits) ∧ digits ≠ [] ∧
        Denotes radix digits n ∧ n ≤ limit := by
  unfold readNatural
  split
  · simp
  · rename_i digits
    rw [readMagnitude_eq_ok_iff positive]
    constructor
    · exact fun read => ⟨digits, .inr rfl, read⟩
    · rintro ⟨others, rfl | same, filled, denotes, bound⟩
      · obtain ⟨first, _, digit, _⟩ := denotes_cons_iff.1 denotes
        cases (digit?_plus radix).symm.trans digit
      · obtain rfl := (List.cons.inj same).2
        exact ⟨filled, denotes, bound⟩
  · rename_i filled unsigned
    have magnitude : readMagnitude radix limit .tooLarge text = .ok n ↔
        text ≠ [] ∧ Denotes radix text n ∧ n ≤ limit := readMagnitude_eq_ok_iff positive
    rw [readMagnitude] at magnitude
    · rw [magnitude]
      constructor
      · exact fun read => ⟨text, .inl rfl, read⟩
      · rintro ⟨others, rfl | same, read⟩
        · exact read
        · exact absurd same (unsigned others)
    · exact filled

end Mailroom.Text
