/-! # Texts of durations

A duration is written in the largest of seconds, milliseconds, microseconds and nanoseconds of which
it holds at least one, with as many decimal places as its nanoseconds need.
-/

namespace Mailroom.Text

/-- The digits of a fraction of `10 ^ places` parts, without zeros at the end. -/
def decimalPlaces (fraction : Nat) : Nat → List Char
  | 0 => []
  | places + 1 =>
    if fraction = 0 then []
    else Nat.digitChar (fraction / 10 ^ places) :: decimalPlaces (fraction % 10 ^ places) places

/-- A whole number and a fraction of `10 ^ places` parts, with a unit behind them. -/
def decimal (whole fraction places : Nat) (unit : String) : String :=
  let digits := decimalPlaces fraction places
  toString whole ++ (if digits.isEmpty then "" else "." ++ String.ofList digits) ++ unit

def duration (nanoseconds : Nat) : String :=
  let inUnit (size places : Nat) (unit : String) : String :=
    decimal (nanoseconds / size) (nanoseconds % size) places unit
  if 1000000000 ≤ nanoseconds then inUnit 1000000000 9 "s"
  else if 1000000 ≤ nanoseconds then inUnit 1000000 6 "ms"
  else if 1000 ≤ nanoseconds then inUnit 1000 3 "µs"
  else inUnit 1 0 "ns"

end Mailroom.Text
