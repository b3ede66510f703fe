import Mailroom.Address
import Mathlib.Algebra.Group.Nat.Defs
/-! # Addresses read back

The text of an address is read as that address, whatever characters its name has. A text that is
read as an address may be spelled otherwise, but means the same as the address's own text. So
addresses are told apart by their texts.
-/

namespace Mailroom

open Text

namespace Handle

variable {value : Nat}

/-! ### Digits -/

private theorem digit?_upperDigit (small : value < 16) :
    digit? 16 (upperDigit value) = some value := by
  have each : ∀ value < 16, digit? 16 (upperDigit value) = some value := by decide
  exact each value small

/-- A text that begins with a digit has no sign. -/
theorem readNatural_of_digit {radix limit : Nat} {c : Char} (digit : digit? radix c = some value)
    (rest : List Char) :
    readNatural radix limit (c :: rest) = readDigits radix limit .tooLarge 0 (c :: rest) := by
  have unsigned : c ≠ '+' := by
    rintro rfl
    exact nomatch digit
  rw [readNatural]
  · exact nofun
  · rintro digits same
    exact unsigned (List.cons.inj same).1

/-- The first of the digits is one. -/
theorem exists_upperDigits_eq_cons (n places : Nat) :
    ∃ digit rest, digit < 16 ∧ upperDigits n (places + 1) = upperDigit digit :: rest := by
  induction places generalizing n with
  | zero => exact ⟨n % 16, [], Nat.mod_lt n (by decide), rfl⟩
  | succ places ih =>
    obtain ⟨digit, rest, small, first⟩ := ih (n / 16)
    refine ⟨digit, rest ++ [upperDigit (n % 16)], small, ?_⟩
    rw [upperDigits, first, List.cons_append]

/-- Reading the digits of a number shifts what was read before by as many places. -/
theorem readDigits_upperDigits {limit : Nat} (overflow : NumeralError) (value n places : Nat)
    (rest : List Char) (bound : 16 ^ places * value + n % 16 ^ places ≤ limit) :
    readDigits 16 limit overflow value (upperDigits n places ++ rest) =
      readDigits 16 limit overflow (16 ^ places * value + n % 16 ^ places) rest := by
  induction places generalizing n rest with
  | zero => rw [Nat.pow_zero, Nat.mod_one, Nat.one_mul, Nat.add_zero, upperDigits, List.nil_append]
  | succ places ih =>
    have last : 16 ^ (places + 1) * value + n % 16 ^ (places + 1) =
        16 * (16 ^ places * value + n / 16 % 16 ^ places) + n % 16 := by
      rw [Nat.pow_succ', Nat.mod_mul, Nat.mul_assoc, Nat.mul_add]
      omega
    rw [last] at bound ⊢
    rw [upperDigits, List.append_assoc, ih (n / 16) _ (by omega), List.singleton_append, readDigits,
      digit?_upperDigit (Nat.mod_lt n (by decide))]
    exact if_pos bound

/-- A number is read from as many digits as it has. -/
theorem readNatural_upperDigits {limit n places : Nat} (fits : n < 16 ^ (places + 1))
    (bound : n ≤ limit) : readNatural 16 limit (upperDigits n (places + 1)) = .ok n := by
  have within : 16 ^ (places + 1) * 0 + n % 16 ^ (places + 1) ≤ limit := by
    rwa [Nat.mul_zero, Nat.zero_add, Nat.mod_eq_of_lt fits]
  have whole := readDigits_upperDigits .tooLarge 0 n (places + 1) [] within
  rw [Nat.mul_zero, Nat.zero_add, Nat.mod_eq_of_lt fits, List.append_nil] at whole
  obtain ⟨digit, rest, small, first⟩ := exists_upperDigits_eq_cons n places
  rw [first] at whole ⊢
  rw [readNatural_of_digit (digit?_upperDigit small), whole, readDigits]

/-! ### Handles -/

private theorem ofChars?_chars (handle : Handle) : ofChars? handle.chars = some handle := by
  have fits : handle.raw.toNat < 16 ^ 8 := handle.raw.toNat_lt
  have read : readNatural 16 (UInt32.size - 1) (upperDigits handle.raw.toNat 8) =
      .ok handle.raw.toNat := readNatural_upperDigits fits (Nat.le_pred_of_lt fits)
  rw [chars, ofChars?, read]
  exact congrArg (some ∘ Handle.mk) UInt32.ofNat_toNat

private theorem parse_text (handle : Handle) : parse handle.text = .ok handle := by
  rw [parse, text, String.toList_ofList, ofChars?_chars]

end Handle

namespace Address

variable {text : String} {address : Address}

private theorem parse_text_handle (handle : Handle) :
    parse (Address.handle handle).text = .ok (.handle handle) := by
  have chars : (Address.handle handle).text.toList = handle.chars := String.toList_ofList
  unfold parse
  rw [chars]
  exact congrArg (·.map Address.handle) handle.parse_text

/-- Only the dot in front of a name is a mark, so the name may have any characters. -/
theorem parse_text_name {label : String} (nonempty : label ≠ "") :
    parse (Address.name label).text = .ok (.name label) := by
  have chars : (Address.name label).text.toList = '.' :: label.toList := String.toList_append
  unfold parse
  rw [chars]
  cases named : label.toList with
  | nil => exact absurd (String.toList_eq_nil_iff.1 named) nonempty
  | cons c rest =>
    have whole : String.ofList (c :: rest) = label := named ▸ String.ofList_toList
    exact congrArg (Except.ok ∘ Address.name) whole

/-- Who reads a name has at least one character of it. -/
theorem ne_empty_of_parse {label : String} (read : parse text = .ok (.name label)) :
    label ≠ "" := by
  unfold parse at read
  split at read
  · exact nomatch read
  · cases parsed : Handle.parse text with
    | error cause => rw [parsed] at read; exact nomatch read
    | ok handle => rw [parsed] at read; exact nomatch read
  · split at read
    · exact nomatch read
    · rename_i named filled
      obtain rfl := Address.name.inj (Except.ok.inj read)
      intro empty
      exact filled (String.ofList_eq_empty_iff.1 empty)

private theorem parse_text_of_parse (read : parse text = .ok address) :
    parse address.text = .ok address := by
  cases address with
  | handle handle => exact parse_text_handle handle
  | name label => exact parse_text_name (ne_empty_of_parse read)

/-- Addresses with a name of at least one character read back. A text that is accepted means the same
as the text of what it is read as, so two of them name the same destination just if their addresses
have the same text. -/
theorem texts_read_back :
    (∀ handle, parse (Address.handle handle).text = .ok (.handle handle)) ∧
    (∀ label, label ≠ "" → parse (Address.name label).text = .ok (.name label)) ∧
    (∀ text address, parse text = .ok address → parse address.text = .ok address) ∧
    ∀ text other address destination, parse text = .ok address →
      parse other = .ok destination → (address = destination ↔ address.text = destination.text) := by
  refine ⟨parse_text_handle, fun label => parse_text_name, fun text address => parse_text_of_parse,
    fun text other address destination read read' => ⟨congrArg _, fun same => ?_⟩⟩
  have back := parse_text_of_parse read
  rw [same, parse_text_of_parse read'] at back
  exact (Except.ok.inj back).symm

/-- A name that begins with a colon is not the handle that it looks like without its mark, and a
handle in short digits of lower case is the one with eight digits. -/
theorem texts_read_back_marked :
    parse ".:1F" = .ok (.name ":1F") ∧ parse ":1f" = .ok (.handle ⟨31⟩) ∧
      parse (Address.name ":1F").text = .ok (.name ":1F") ∧
      parse (Address.handle ⟨31⟩).text = .ok (.handle ⟨31⟩) ∧
      (Address.name ":1F").text ≠ (Address.handle ⟨31⟩).text := by
  obtain ⟨handles, names, again, same⟩ := texts_read_back
  have name : parse ".:1F" = .ok (.name ":1F") := rfl
  have handle : parse ":1f" = .ok (.handle ⟨31⟩) := rfl
  exact ⟨name, handle, names ":1F" (by decide), again ":1f" _ handle,
    mt (same _ _ _ _ name handle).2 nofun⟩

end Address

end Mailroom
