import Mailroom.Text.Blank
import Mailroom.Proofs.Text.Numeral
/-! # Decimals of 32 bits

A word of 32 bits is read from decimal digits behind a sign or none, however many digits there are.
It is the number that they denote, and there is no reading just if that number is no word. Printed
words read back.
-/

namespace Mailroom.Text

/-- At least one decimal digit, the most significant in front, and the number that they denote. -/
structure Decimal (digits : List Char) (n : Nat) : Prop where
  nonempty : digits ≠ []
  digit (c : Char) (member : c ∈ digits) : c.isDigit = true
  value : n = Nat.ofDigitChars 10 digits 0

/-- Decimal digits, perhaps behind a plus sign. -/
inductive Unsigned : List Char → Nat → Prop where
  | plain {digits : List Char} {n : Nat} (decimal : Decimal digits n) : Unsigned digits n
  | plus {digits : List Char} {n : Nat} (decimal : Decimal digits n) : Unsigned ('+' :: digits) n

/-- Decimal digits, perhaps behind a sign. -/
inductive Signed : List Char → Int → Prop where
  | unsigned {text : List Char} {n : Nat} (numeral : Unsigned text n) : Signed text n
  | minus {digits : List Char} {n : Nat} (decimal : Decimal digits n) : Signed ('-' :: digits) (-n)

variable {digits text : List Char} {n : Nat} {i : Int} {c : Char}

/-! ### Digits -/

private theorem isDigit_iff_le : c.isDigit = true ↔ '0' ≤ c ∧ c ≤ '9' := by
  simp only [Char.isDigit_iff_toNat, Char.le_def, UInt32.le_iff_toNat_le, Char.toNat]

/-- Letters stand for ten and more. -/
theorem digit?_ten (c : Char) :
    digit? 10 c = if c.isDigit then some (c.toNat - '0'.toNat) else none := by
  by_cases digit : c.isDigit
  · have most : c.toNat ≤ '0'.toNat + 9 := (Char.isDigit_iff_toNat.1 digit).2
    have small : c.toNat - '0'.toNat < 10 := by omega
    rw [digit?, if_pos (isDigit_iff_le.1 digit), if_pos digit]
    exact Option.filter_some_pos (decide_eq_true small)
  · simp only [digit?, isDigit_iff_le.not.1 digit, digit, if_false]
    split
    · simp
    · split <;> simp

theorem denotes_ten_iff :
    Denotes 10 digits n ↔ (∀ c ∈ digits, c.isDigit = true) ∧ n = Nat.ofDigitChars 10 digits 0 := by
  induction digits generalizing n with
  | nil => simp [denotes_nil_iff, Nat.ofDigitChars]
  | cons c rest ih =>
    have first : Nat.ofDigitChars 10 (c :: rest) 0 =
        10 ^ rest.length * (c.toNat - '0'.toNat) + Nat.ofDigitChars 10 rest 0 := by
      rw [Nat.ofDigitChars_cons, Nat.ofDigitChars_eq_ofDigitChars_zero, Nat.mul_zero, Nat.zero_add]
    simp only [denotes_cons_iff, ih, digit?_ten, List.forall_mem_cons, first]
    by_cases digit : c.isDigit <;> simp [digit]

theorem decimal_iff : Decimal digits n ↔ digits ≠ [] ∧ Denotes 10 digits n := by
  rw [denotes_ten_iff]
  exact ⟨fun ⟨nonempty, digit, value⟩ => ⟨nonempty, digit, value⟩,
    fun ⟨nonempty, digit, value⟩ => ⟨nonempty, digit, value⟩⟩

/-! ### Reading -/

theorem readMagnitude_ten_eq_ok_iff {limit : Nat} {overflow : NumeralError} :
    readMagnitude 10 limit overflow digits = .ok n ↔ Decimal digits n ∧ n ≤ limit := by
  rw [readMagnitude_eq_ok_iff (by decide), decimal_iff, and_assoc]

theorem readNatural_ten_eq_ok_iff {limit : Nat} :
    readNatural 10 limit text = .ok n ↔ Unsigned text n ∧ n ≤ limit := by
  rw [readNatural_eq_ok_iff (by decide)]
  constructor
  · rintro ⟨digits, rfl | rfl, filled, denotes, bound⟩
    · exact ⟨.plain (decimal_iff.2 ⟨filled, denotes⟩), bound⟩
    · exact ⟨.plus (decimal_iff.2 ⟨filled, denotes⟩), bound⟩
  · rintro ⟨decimal | decimal, bound⟩
    · exact ⟨_, .inl rfl, decimal.nonempty, (decimal_iff.1 decimal).2, bound⟩
    · exact ⟨_, .inr rfl, decimal.nonempty, (decimal_iff.1 decimal).2, bound⟩

private theorem map_eq_ok_iff {ε α β : Type} {result : Except ε α} {change : α → β} {b : β} :
    result.map change = .ok b ↔ ∃ a, result = .ok a ∧ change a = b := by
  cases result with
  | error cause => simp [Except.map]
  | ok a => simp [Except.map]

/-- A word without a sign bit is read just from the numerals of its number. -/
theorem readUInt32_eq_ok_iff {word : UInt32} :
    readUInt32 text = .ok word ↔ Unsigned text word.toNat := by
  rw [readUInt32, map_eq_ok_iff]
  constructor
  · rintro ⟨n, read, rfl⟩
    obtain ⟨numeral, bound⟩ := readNatural_ten_eq_ok_iff.1 read
    have fits : n < UInt32.size := Nat.lt_of_le_pred (by decide) bound
    rwa [UInt32.toNat_ofNat_of_lt' fits]
  · intro numeral
    have bound : word.toNat ≤ UInt32.size - 1 := Nat.le_pred_of_lt word.toNat_lt
    exact ⟨word.toNat, readNatural_ten_eq_ok_iff.2 ⟨numeral, bound⟩, UInt32.ofNat_toNat⟩

theorem readInt32_minus_eq_ok_iff {word : Int32} : readInt32 ('-' :: digits) = .ok word ↔
    ∃ n, readMagnitude 10 2147483648 .tooSmall digits = .ok n ∧ .ofInt (-n) = word := by
  rw [readInt32]
  cases readMagnitude 10 2147483648 .tooSmall digits <;> simp [Except.map]

private theorem readInt32_eq_ok_iff_of_ne {word : Int32} (unsigned : text.head? ≠ some '-') :
    readInt32 text = .ok word ↔
      ∃ n, readNatural 10 2147483647 text = .ok n ∧ .ofInt n = word := by
  unfold readInt32
  split
  · exact absurd rfl unsigned
  · cases readNatural 10 2147483647 text <;> simp [Except.map]

private theorem Unsigned.head?_ne_minus (numeral : Unsigned text n) : text.head? ≠ some '-' := by
  cases numeral with
  | plain decimal =>
    intro begins
    exact absurd (decimal.digit _ (List.mem_of_head? begins)) (by decide)
  | plus decimal => simp

/-- A word in two's complement is read just from the numerals of its number. -/
theorem readInt32_eq_ok_iff {word : Int32} :
    readInt32 text = .ok word ↔ Signed text word.toInt := by
  have low := word.le_toInt
  have high := word.toInt_lt
  by_cases minus : text.head? = some '-'
  · obtain ⟨digits, rfl⟩ := List.head?_eq_some_iff.1 minus
    rw [readInt32_minus_eq_ok_iff]
    constructor
    · rintro ⟨n, read, rfl⟩
      obtain ⟨decimal, bound⟩ := readMagnitude_ten_eq_ok_iff.1 read
      rw [Int32.toInt_ofInt_of_le (by omega) (by omega)]
      exact .minus decimal
    · intro numeral
      generalize number : word.toInt = i at *
      cases numeral with
      | unsigned numeral => exact absurd minus numeral.head?_ne_minus
      | @minus _ n decimal =>
        have bound : n ≤ 2147483648 := by omega
        refine ⟨n, readMagnitude_ten_eq_ok_iff.2 ⟨decimal, bound⟩, ?_⟩
        rw [← number, Int32.ofInt_toInt]
  · rw [readInt32_eq_ok_iff_of_ne minus]
    constructor
    · rintro ⟨n, read, rfl⟩
      obtain ⟨numeral, bound⟩ := readNatural_ten_eq_ok_iff.1 read
      rw [Int32.toInt_ofInt_of_le (by omega) (by omega)]
      exact .unsigned numeral
    · intro numeral
      generalize number : word.toInt = i at *
      cases numeral with
      | @unsigned _ n numeral =>
        have bound : n ≤ 2147483647 := by omega
        refine ⟨n, readNatural_ten_eq_ok_iff.2 ⟨numeral, bound⟩, ?_⟩
        rw [← number, Int32.ofInt_toInt]
      | minus decimal => exact absurd rfl minus

/-! ### The characters of numerals -/

private theorem Signed.digit_or_sign (numeral : Signed text i) (member : c ∈ text) :
    c.isDigit = true ∨ c = '+' ∨ c = '-' := by
  rcases numeral with (decimal | decimal) | decimal
  · exact .inl (decimal.digit c member)
  · obtain rfl | member := List.mem_cons.1 member
    · exact .inr (.inl rfl)
    · exact .inl (decimal.digit c member)
  · obtain rfl | member := List.mem_cons.1 member
    · exact .inr (.inr rfl)
    · exact .inl (decimal.digit c member)

private theorem isBlank_of_isDigit (digit : c.isDigit = true) : isBlank c = false := by
  have bounds := Char.isDigit_iff_toNat.1 digit
  have each : ∀ n < '9'.toNat + 1, '0'.toNat ≤ n → isBlank (Char.ofNat n) = false := by decide
  have solid := each c.toNat (Nat.lt_succ_of_le bounds.2) bounds.1
  rwa [Char.ofNat_toNat] at solid

/-- A numeral is bare and holds no colon. -/
theorem Signed.solid (numeral : Signed text i) (member : c ∈ text) :
    isBlank c = false ∧ c ≠ ':' := by
  rcases numeral.digit_or_sign member with digit | rfl | rfl
  · refine ⟨isBlank_of_isDigit digit, ?_⟩
    rintro rfl
    cases digit
  · exact ⟨rfl, by decide⟩
  · exact ⟨rfl, by decide⟩

/-! ### Printing -/

private theorem decimal_toDigits (n : Nat) : Decimal (Nat.toDigits 10 n) n where
  nonempty := Nat.toDigits_ne_nil
  digit _ member := Nat.isDigit_of_mem_toDigits (by decide) (by decide) member
  value := Nat.ofDigitChars_ten_toDigits.symm

theorem unsigned_toString (n : Nat) : Unsigned (toString n).toList n := by
  rw [Nat.toString_eq_ofList_toDigits, String.toList_ofList]
  exact .plain (decimal_toDigits n)

theorem signed_toString (i : Int) : Signed (toString i).toList i := by
  cases i with
  | ofNat n => exact .unsigned (unsigned_toString n)
  | negSucc n =>
    have text : (toString (Int.negSucc n)).toList = '-' :: Nat.toDigits 10 (n + 1) := by
      calc
        _ = "-".toList ++ (Nat.repr (n + 1)).toList := String.toList_append
        _ = '-' :: Nat.toDigits 10 (n + 1) := by
          rw [Nat.repr_eq_ofList_toDigits]
          exact congrArg ('-' :: ·) String.toList_ofList
    rw [text]
    exact .minus (decimal_toDigits (n + 1))

end Mailroom.Text
