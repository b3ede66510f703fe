import Mailroom.Command
import Mailroom.Proofs.Text.Decimal
import Mailroom.Proofs.Text.Trimming
import Mathlib.Algebra.Group.Int.Defs
import Mathlib.Algebra.Group.Nat.Defs
/-! # The numbers of a timeout

The argument of `TIMEOUT` is read as far as it goes: the first colon parts it, white space around
each part does not count, and what is left of both has to be a numeral of the right range. Then the
command holds the two numbers, and otherwise the argument is invalid.
-/

namespace Mailroom.Command

open Text

/-- The first colon of an argument stands between a numeral without a minus sign and another one,
with or without white space around them. -/
structure Times (argument : List Char) (ticks : Nat) (session : Int) : Prop where
  parts : ∃ before after, argument = before ++ ':' :: after ∧ ':' ∉ before ∧
    (∃ numeral, Trimmed before numeral ∧ Unsigned numeral ticks) ∧
    ∃ numeral, Trimmed after numeral ∧ Signed numeral session

private theorem cut?_colon_eq_some_iff {text before after : List Char} :
    cut? (· = ':') text = some (before, after) ↔ text = before ++ ':' :: after ∧ ':' ∉ before := by
  rw [cut?_eq_some_iff]
  constructor
  · rintro ⟨c, parts, marked, earlier⟩
    obtain rfl : c = ':' := of_decide_eq_true marked
    exact ⟨parts, fun member => of_decide_eq_false (earlier _ member) rfl⟩
  · rintro ⟨parts, first⟩
    exact ⟨':', parts, rfl, fun c member => decide_eq_false (ne_of_mem_of_not_mem member first)⟩

theorem timesOf_eq_ok_iff {argument : List Char} {ticks : UInt32} {session : Int32} :
    timesOf argument = .ok (ticks, session) ↔ Times argument ticks.toNat session.toInt := by
  constructor
  · intro read
    unfold timesOf at read
    split at read
    · cases read
    · rename_i before after parted
      obtain ⟨parts, first⟩ := cut?_colon_eq_some_iff.1 parted
      split at read
      · cases read
      · rename_i readTicks
        split at read
        · cases read
        · rename_i readSession
          obtain ⟨rfl, rfl⟩ := Prod.mk.inj (Except.ok.inj read)
          exact ⟨before, after, parts, first,
            ⟨_, trim_eq_iff.1 rfl, readUInt32_eq_ok_iff.1 readTicks⟩,
            _, trim_eq_iff.1 rfl, readInt32_eq_ok_iff.1 readSession⟩
  · rintro ⟨before, after, parts, first, ⟨_, trimmed, unsigned⟩, _, trimmed', signed⟩
    have parted := cut?_colon_eq_some_iff.2 ⟨parts, first⟩
    have readTicks := readUInt32_eq_ok_iff.2 unsigned
    have readSession := readInt32_eq_ok_iff.2 signed
    rw [← trim_eq_iff.2 trimmed] at readTicks
    rw [← trim_eq_iff.2 trimmed'] at readSession
    simp only [timesOf, parted, readTicks, readSession]

private theorem parse_timeout_cases (argument : String) :
    (∃ ticks session, timesOf argument.toList = .ok (ticks, session) ∧
      parse "TIMEOUT" argument = .ok (.timeout ticks session)) ∨
    ∃ reason, timesOf argument.toList = .error reason ∧
      parse "TIMEOUT" argument = .error (.invalidArgument "TIMEOUT" reason) := by
  simp only [parse]
  cases timesOf argument.toList with
  | error reason => exact .inr ⟨reason, rfl, rfl⟩
  | ok times => exact .inl ⟨times.1, times.2, rfl, rfl⟩

theorem parse_timeout_iff {argument : String} {ticks : UInt32} {session : Int32} :
    parse "TIMEOUT" argument = .ok (.timeout ticks session) ↔
      Times argument.toList ticks.toNat session.toInt := by
  rw [← timesOf_eq_ok_iff]
  obtain ⟨_, _, read, parsed⟩ | ⟨_, read, parsed⟩ := parse_timeout_cases argument
  · rw [read, parsed, Except.ok.injEq, Except.ok.injEq, timeout.injEq, Prod.mk.injEq]
  · rw [read, parsed]
    exact iff_of_false nofun nofun

/-- A timeout is read just from two numerals whose numbers are words of 32 bits, the first without a
sign bit and the second with one, and it holds these numbers. Any other argument is invalid. -/
theorem timeout_numbers_are_exact (argument : String) :
    (∀ ticks session, parse "TIMEOUT" argument = .ok (.timeout ticks session) ↔
      Times argument.toList ticks.toNat session.toInt) ∧
    ((∃ command, parse "TIMEOUT" argument = .ok command) ↔ ∃ ticks session,
      Times argument.toList ticks session ∧ ticks ≤ 2 ^ 32 - 1 ∧
        -2 ^ 31 ≤ session ∧ session ≤ 2 ^ 31 - 1) ∧
    ((∃ ticks session, parse "TIMEOUT" argument = .ok (.timeout ticks session)) ∨
      ∃ reason, parse "TIMEOUT" argument = .error (.invalidArgument "TIMEOUT" reason)) := by
  refine ⟨fun _ _ => parse_timeout_iff, ⟨?_, ?_⟩, ?_⟩
  · rintro ⟨command, accepted⟩
    obtain ⟨ticks, session, _, parsed⟩ | ⟨_, _, parsed⟩ := parse_timeout_cases argument
    · exact ⟨_, _, parse_timeout_iff.1 parsed, Nat.le_pred_of_lt ticks.toNat_lt,
        session.le_toInt, Int.le_sub_one_of_lt session.toInt_lt⟩
    · rw [parsed] at accepted
      cases accepted
  · rintro ⟨ticks, session, times, most, least, most'⟩
    have exactTicks : (UInt32.ofNat ticks).toNat = ticks :=
      UInt32.toNat_ofNat_of_lt' (Nat.lt_of_le_pred (by decide) most)
    have exactSession : (Int32.ofInt session).toInt = session :=
      Int32.toInt_ofInt_of_le least (Int.lt_of_le_sub_one most')
    rw [← exactTicks, ← exactSession] at times
    exact ⟨_, parse_timeout_iff.2 times⟩
  · obtain ⟨ticks, session, _, parsed⟩ | ⟨reason, _, parsed⟩ := parse_timeout_cases argument
    · exact .inl ⟨ticks, session, parsed⟩
    · exact .inr ⟨reason, parsed⟩

/-- Leading zeros and signs are read over, and one more than the greatest word is no word. -/
example : parse "TIMEOUT" " +00000000004294967295 : -2147483648:" =
    .error (.invalidArgument "TIMEOUT" "bad session: invalid digit found in string") ∧
  parse "TIMEOUT" " +00000000004294967295 : -2147483648 " =
    .ok (.timeout 4294967295 (-2147483648)) ∧
  parse "TIMEOUT" "4294967296:0" =
    .error (.invalidArgument "TIMEOUT" "bad tick count: number too large to fit in target type") :=
  by decide +kernel

end Mailroom.Command
