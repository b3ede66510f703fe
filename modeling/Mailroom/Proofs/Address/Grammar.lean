import Mailroom.Address
import Mailroom.Proofs.Text.Numeral
/-! # Texts of handles

A handle is read from a colon and hexadecimal digits of either case, in any number that denotes 32 bits
at most. The digits are a numeral, and a numeral may begin with a plus sign, so one such sign is read
over. No other text is a handle.
-/

namespace Mailroom

open Text

namespace Handle

/-- The hexadecimal digits in lower case, each at the place of its value. -/
def hexadecimals : List Char := "0123456789abcdef".toList

/-- At least one hexadecimal digit, the most significant in front, and the number that they denote. -/
structure Hexadecimal (digits : List Char) (n : Nat) : Prop where
  nonempty : digits ≠ []
  valued : ∃ values, n = Nat.ofDigits 16 values.reverse ∧
    List.Forall₂ (fun c value => hexadecimals.idxOf? c.toLower = some value) digits values

/-- A digit of radix 16 has the value of its place among the hexadecimal digits, in either case. -/
theorem digit?_sixteen (c : Char) : digit? 16 c = hexadecimals.idxOf? c.toLower := by
  by_cases ascii : c.toNat < 128
  · have each : ∀ n < 128, digit? 16 (Char.ofNat n) =
        hexadecimals.idxOf? (Char.ofNat n).toLower := by decide +kernel
    simpa only [Char.ofNat_toNat] using each c.toNat ascii
  · -- beyond ASCII there are neither digits nor letters of another case
    have beyond (d : Char) (small : d.toNat < 128) : ¬ c ≤ d := by
      rw [Char.le_def, UInt32.le_iff_toNat_le]
      exact fun le => ascii (Nat.lt_of_le_of_lt le small)
    have lower : c.toLower = c :=
      dif_neg fun capital => beyond 'Z' (by decide) (Char.le_def.2 capital.2)
    have absent : c ∉ hexadecimals := by
      have each : hexadecimals.all (·.toNat < 128) = true := by decide
      exact fun member => ascii (of_decide_eq_true (List.all_eq_true.1 each c member))
    rw [lower, List.idxOf?_eq_none_iff.2 absent]
    simp only [digit?, beyond '9' (by decide), beyond 'z' (by decide), beyond 'Z' (by decide),
      and_false, if_false, Option.filter_none]

theorem hexadecimal_iff {digits : List Char} {n : Nat} :
    Hexadecimal digits n ↔ digits ≠ [] ∧ Denotes 16 digits n := by
  have same : (fun c value => hexadecimals.idxOf? c.toLower = some value) =
      fun c value => digit? 16 c = some value := by
    funext c value
    rw [digit?_sixteen]
  constructor
  · rintro ⟨filled, values, number, each⟩
    exact ⟨filled, values, same ▸ each, number⟩
  · rintro ⟨filled, values, each, number⟩
    exact ⟨filled, values, number, same ▸ each⟩

/-- Only what follows a colon is looked at, as a numeral of 32 bits. -/
theorem ofChars?_eq_some_iff {chars : List Char} {handle : Handle} :
    ofChars? chars = some handle ↔ ∃ numeral n, chars = ':' :: numeral ∧
      readNatural 16 (UInt32.size - 1) numeral = .ok n ∧ handle = ⟨.ofNat n⟩ := by
  unfold ofChars?
  split
  · rename_i numeral
    rw [Option.map_eq_some_iff]
    constructor
    · rintro ⟨n, read, rfl⟩
      cases result : readNatural 16 (UInt32.size - 1) numeral with
      | error cause =>
        rw [result] at read
        cases read
      | ok m =>
        rw [result] at read
        exact ⟨numeral, n, rfl, congrArg Except.ok (Option.some.inj read) ▸ result, rfl⟩
    · rintro ⟨_, n, same, read, rfl⟩
      obtain rfl := (List.cons.inj same).2
      exact ⟨n, by rw [read]; rfl, rfl⟩
  · rename_i unmarked
    simp only [reduceCtorEq, false_iff]
    rintro ⟨numeral, _, marked, _⟩
    exact unmarked numeral marked

theorem parse_eq_ok_iff {text : String} {handle : Handle} :
    parse text = .ok handle ↔ ofChars? text.toList = some handle := by
  unfold parse
  split <;> rename_i found <;> rw [found] <;> simp

private theorem parse_cases (text : String) :
    (∃ handle, parse text = .ok handle) ∨ parse text = .error (.malformed text) := by
  unfold parse
  split
  · exact .inl ⟨_, rfl⟩
  · exact .inr rfl

/-- The number stays below 2^32 just if it is within the greatest number of 32 bits. -/
theorem parse_iff_hexadecimal {text : String} {handle : Handle} :
    parse text = .ok handle ↔ ∃ digits n,
      (text.toList = ':' :: digits ∨ text.toList = ':' :: '+' :: digits) ∧
        Hexadecimal digits n ∧ n < 2 ^ 32 ∧ handle = ⟨.ofNat n⟩ := by
  rw [parse_eq_ok_iff, ofChars?_eq_some_iff]
  constructor
  · rintro ⟨numeral, n, chars, read, rfl⟩
    obtain ⟨digits, spelled, filled, denotes, bound⟩ :=
      (readNatural_eq_ok_iff (by decide)).1 read
    have below : n < 2 ^ 32 := Nat.lt_of_le_pred (by decide) bound
    refine ⟨digits, n, ?_, hexadecimal_iff.2 ⟨filled, denotes⟩, below, rfl⟩
    obtain rfl | rfl := spelled
    · exact .inl chars
    · exact .inr chars
  · rintro ⟨digits, n, spelled, hexadecimal, below, rfl⟩
    obtain ⟨filled, denotes⟩ := hexadecimal_iff.1 hexadecimal
    have read (numeral : List Char) (signed : numeral = digits ∨ numeral = '+' :: digits) :
        readNatural 16 (UInt32.size - 1) numeral = .ok n :=
      (readNatural_eq_ok_iff (by decide)).2
        ⟨digits, signed, filled, denotes, Nat.le_pred_of_lt below⟩
    obtain chars | chars := spelled
    · exact ⟨_, n, chars, read _ (.inl rfl), rfl⟩
    · exact ⟨_, n, chars, read _ (.inr rfl), rfl⟩

/-- An address is a handle just if its text is that of the handle. -/
theorem parse_address_iff {text : String} {handle : Handle} :
    Address.parse text = .ok (.handle handle) ↔ parse text = .ok handle := by
  unfold Address.parse
  split
  · rename_i empty
    simp [parse, ofChars?, empty]
  · cases parse text <;> simp [Except.map]
  · rename_i unmarked
    -- without a colon there is no handle, and a name is none either
    have unread : parse text ≠ .ok handle := by
      rw [Ne, parse_eq_ok_iff, ofChars?_eq_some_iff]
      rintro ⟨numeral, _, marked, _⟩
      exact unmarked numeral marked
    refine iff_of_false ?_ unread
    split <;> exact nofun

/-- A text is read as a handle just if it is a colon, one plus sign or none, and then hexadecimal
digits of a number below 2^32, and it is read as that number. Any other text is malformed and is
handed back as it is. An address with a handle is read from the same texts. -/
theorem texts_of_handles (text : String) :
    (∀ handle, parse text = .ok handle ↔ ∃ digits n,
      (text.toList = ':' :: digits ∨ text.toList = ':' :: '+' :: digits) ∧
        Hexadecimal digits n ∧ n < 2 ^ 32 ∧ handle = ⟨.ofNat n⟩) ∧
    ((∃ handle, parse text = .ok handle) ∨ parse text = .error (.malformed text)) ∧
    ∀ handle, Address.parse text = .ok (.handle handle) ↔ parse text = .ok handle :=
  ⟨fun _ => parse_iff_hexadecimal, parse_cases text, fun _ => parse_address_iff⟩

/-- A plus sign is no hexadecimal digit, and yet a text with one behind the colon is read as a
handle. -/
theorem plus_sign_is_read_over :
    parse ":+1" = .ok ⟨1⟩ ∧
      ¬ ∃ digits n, ":+1".toList = ':' :: digits ∧ Hexadecimal digits n ∧ n < 2 ^ 32 := by
  refine ⟨rfl, ?_⟩
  rintro ⟨digits, n, chars, ⟨_, values, _, each⟩, _⟩
  obtain rfl : digits = ['+', '1'] := (List.cons.inj chars).2.symm
  obtain ⟨value, _, digit, _⟩ := List.forall₂_cons_left_iff.1 each
  cases (show hexadecimals.idxOf? '+'.toLower = none by decide).symm.trans digit

end Handle

end Mailroom
