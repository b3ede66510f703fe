/-! # Handles

A handle is the 32-bit number of one registered actor. Its text is a colon and eight hexadecimal
digits in upper case. Zero is a handle like any other here; that it is never issued is a rule of
the directory.
-/

namespace Mailroom

/-- The number of one registered actor. -/
structure Handle where
  raw : UInt32
deriving DecidableEq, Repr, Inhabited, Hashable

namespace Handle

/-- A hexadecimal digit in upper case. -/
def upperDigit (value : Nat) : Char :=
  if value < 10 then Char.ofNat ('0'.toNat + value) else Char.ofNat ('A'.toNat + (value - 10))

/-- The last `places` hexadecimal digits of a number. -/
def upperDigits (n : Nat) : Nat → List Char
  | 0 => []
  | places + 1 => upperDigits (n / 16) places ++ [upperDigit (n % 16)]

/-- The characters of a handle's text. -/
def chars (handle : Handle) : List Char := ':' :: upperDigits handle.raw.toNat 8

def text (handle : Handle) : String := String.ofList handle.chars

/-- The record form of a handle, as in listings of the state. -/
def record (handle : Handle) : String := s!"Handle({handle.raw})"

end Handle

end Mailroom
