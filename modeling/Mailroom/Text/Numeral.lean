/-! # Numerals

Reading a numeral of a fixed radix into a range of integers. A numeral is an optional sign and at
least one digit; a minus sign is for signed ranges only. The characters are taken from the left, and
the first that is no digit, or that leads out of the range, decides the error.

A decimal may have a fraction and an exponent besides, and its value is not needed.
-/

namespace Mailroom.Text

/-- Why a text is no numeral of the range. -/
inductive NumeralError where
  | empty
  | invalidDigit
  | tooLarge
  | tooSmall
deriving DecidableEq, Repr

namespace NumeralError

def message : NumeralError → String
  | empty => "cannot parse integer from empty string"
  | invalidDigit => "invalid digit found in string"
  | tooLarge => "number too large to fit in target type"
  | tooSmall => "number too small to fit in target type"

end NumeralError

/-- The value of a digit of the radix; letters of either case follow nine. -/
def digit? (radix : Nat) (c : Char) : Option Nat :=
  let value? :=
    if '0' ≤ c ∧ c ≤ '9' then some (c.toNat - '0'.toNat)
    else if 'a' ≤ c ∧ c ≤ 'z' then some (c.toNat - 'a'.toNat + 10)
    else if 'A' ≤ c ∧ c ≤ 'Z' then some (c.toNat - 'A'.toNat + 10)
    else none
  value?.filter (· < radix)

/-- Continues `value` by digits for as long as it stays within `limit`. -/
def readDigits (radix limit : Nat) (overflow : NumeralError) (value : Nat) :
    List Char → Except NumeralError Nat
  | [] => .ok value
  | c :: rest =>
    match digit? radix c with
    | none => .error .invalidDigit
    | some digit =>
      if radix * value + digit ≤ limit then
        readDigits radix limit overflow (radix * value + digit) rest
      else .error overflow

/-- Reads the digits after a sign, of which there has to be one. -/
def readMagnitude (radix limit : Nat) (overflow : NumeralError) :
    List Char → Except NumeralError Nat
  | [] => .error .invalidDigit
  | digits => readDigits radix limit overflow 0 digits

/-- Reads a numeral between zero and `limit`, with or without a plus sign. -/
def readNatural (radix limit : Nat) : List Char → Except NumeralError Nat
  | [] => .error .empty
  | '+' :: digits => readMagnitude radix limit .tooLarge digits
  | digits => readDigits radix limit .tooLarge 0 digits

/-- Reads a decimal numeral of 32 bits without a sign bit. -/
def readUInt32 (text : List Char) : Except NumeralError UInt32 :=
  (readNatural 10 (UInt32.size - 1) text).map UInt32.ofNat

/-- Reads a decimal numeral of 32 bits in two's complement. -/
def readInt32 : List Char → Except NumeralError Int32
  | '-' :: digits =>
    (readMagnitude 10 2147483648 .tooSmall digits).map fun magnitude => Int32.ofInt (-magnitude)
  | text => (readNatural 10 2147483647 text).map fun magnitude => Int32.ofInt magnitude

/-- Removes a sign, if there is one. -/
def unsigned : List Char → List Char
  | '+' :: rest => rest
  | '-' :: rest => rest
  | text => text

/-- Whether a text is an exponent, or nothing at all. -/
def isExponent : List Char → Bool
  | [] => true
  | mark :: rest =>
    let digits := unsigned rest
    (mark = 'e' || mark = 'E') && !digits.isEmpty && digits.all Char.isDigit

/-- Whether a text is a decimal: digits with at most one point among them and perhaps an exponent,
or the name of infinity or of what is no number, behind an optional sign. -/
def isDecimal (text : List Char) : Bool :=
  let whole := (unsigned text).takeWhile Char.isDigit
  let behind := (unsigned text).dropWhile Char.isDigit
  let (fraction, exponent) :=
    match behind with
    | '.' :: rest => (rest.takeWhile Char.isDigit, rest.dropWhile Char.isDigit)
    | rest => ([], rest)
  !(whole.isEmpty && fraction.isEmpty) && isExponent exponent ||
    String.ofList ((unsigned text).map Char.toLower) ∈ ["inf", "infinity", "nan"]

end Mailroom.Text
