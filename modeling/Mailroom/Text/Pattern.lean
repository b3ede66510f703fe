import Mailroom.Text.Alphanumeric
import Mailroom.Text.Pattern.Set
/-! # Patterns

Which texts are regular expressions. Here nothing is ever matched by a pattern, so a pattern is read
for whether it is one, part by part, and nothing is kept of a part but its outline and what the
parts behind it can depend on. A text that goes deeper than `maxDepth` is no pattern.

A pattern has characters, a dot for any of them, sets in brackets, escapes, groups, alternatives and
repetitions. Flags at the beginning of a group or in parentheses of their own switch modes until the
group ends. The dialect looks neither ahead nor back, has no references to groups, and knows no
properties of characters beyond ASCII: whatever would need them is no pattern as long as the pattern
is about characters, and whatever might match a part of a character is none if it is about bytes.
Only a boundary between words may need them if it is repeated zero times and so never looked for.
-/

namespace Mailroom.Text.Pattern

namespace Modes

/-! ### Repetitions -/

/-- Reads a numeral of 32 bits between white space. -/
def count? (modes : Modes) (text : List Char) : Option Nat × List Char :=
  let (digits, behind) := modes.collect Char.isDigit false (text.dropWhile isBlank)
  let value? := if digits.isEmpty then none
    else (readDigits 10 4294967295 .tooLarge 0 digits).toOption
  (value?, modes.skip (behind.dropWhile isBlank))

/-- Reads the number of repetitions behind the brace that opens it: one number, or the least and
perhaps the greatest. Returns whether it is always zero, and what is behind it. -/
def repetition? (modes : Modes) (text : List Char) : Option (Bool × List Char) := do
  match modes.count? (modes.skip text) with
  | (some least, ',' :: rest) =>
    match modes.skip rest with
    | '}' :: behind => some (false, modes.skip behind)
    | rest =>
      match modes.count? rest with
      | (some greatest, '}' :: behind) =>
        if least ≤ greatest then some (greatest = 0, modes.skip behind) else none
      | _ => none
  | (some number, '}' :: behind) => some (number = 0, modes.skip behind)
  | _ => none

/-! ### Groups -/

/-- Switches modes by flags, those behind a minus sign off and the others on. A flag is given once,
and something has to be behind the sign. -/
def flagged? (modes : Modes) (flags : List Char) : Option Modes :=
  let on := flags.takeWhile (· ≠ '-')
  let off := flags.dropWhile (· ≠ '-')
  let switch (flag : Char) (mode : Bool) : Bool := flag ∈ on || (mode && flag ∉ off)
  if flags.Nodup && flags.all (· ∈ "imsUuRx-".toList) && flags.getLast? ≠ some '-' then
    some {
      spaced := switch 'x' modes.spaced
      folded := switch 'i' modes.folded
      unicode := switch 'u' modes.unicode }
  else none

end Modes

/-- Whether a text is a name for a group. -/
def isGroupName : List Char → Bool
  | [] => false
  | first :: rest =>
    (first = '_' || isAlphabetic first) &&
      rest.all fun c => isAlphanumeric c || c ∈ ['_', '.', '[', ']']

/-- The deepest that a pattern may be. -/
def maxDepth : Nat := 250

/-- What is around an open group. -/
structure Surroundings where
  /-- The modes outside of the group. -/
  modes : Modes
  /-- The alternatives in front of the one that the group is in. -/
  alternatives : Siblings
  /-- The parts of this alternative in front of the group. -/
  parts : Siblings

/-- What the parts read so far mean for the pattern and for the part to be read. -/
structure Reading where
  modes : Modes
  /-- The alternatives that have been read of the innermost open group. -/
  alternatives : Siblings
  /-- The parts of the alternative that is being read. -/
  parts : Siblings
  /-- Whether there is something to repeat. -/
  repeatable : Bool
  /-- What is around each open group, the innermost group first. -/
  outer : List Surroundings
  /-- The names of groups, which are all different. -/
  names : List (List Char)

namespace Reading

def beginning : Reading where
  modes := .standard
  alternatives := .none
  parts := .none
  repeatable := false
  outer := []
  names := []

/-- The outline of what has been read of the innermost open group. -/
def outline (reading : Reading) : Outline :=
  (reading.alternatives.add reading.parts.outline).outline

/-- The reading behind a part that can be repeated. -/
def behindPart (reading : Reading) (part : Outline) : Reading :=
  { reading with parts := reading.parts.add part, repeatable := true }

/-- The reading behind a character, or behind something else without parts. -/
def behindCharacter (reading : Reading) : Reading := reading.behindPart (.ofDepth 0)

/-- The reading behind flags in parentheses of their own. -/
def behindFlags (reading : Reading) (modes : Modes) : Reading :=
  { reading with modes, parts := reading.parts.add (.ofDepth 0), repeatable := false }

/-- The reading behind a sign that repeats the last part. -/
def behindRepetition (reading : Reading) (never : Bool) : Reading :=
  { reading with parts := reading.parts.repeatLast never }

/-- The reading behind the sign of another alternative. -/
def behindAlternative (reading : Reading) : Reading where
  modes := reading.modes
  alternatives := reading.alternatives.add reading.parts.outline
  parts := .none
  repeatable := false
  outer := reading.outer
  names := reading.names

/-- The reading inside a group that has just begun. -/
def inGroup (reading : Reading) (modes : Modes) : Reading where
  modes := modes
  alternatives := .none
  parts := .none
  repeatable := false
  outer :=
    { modes := reading.modes, alternatives := reading.alternatives, parts := reading.parts } ::
      reading.outer
  names := reading.names

/-- Ends the innermost group, if one is open. -/
def endGroup? (reading : Reading) : Option Reading :=
  match reading.outer with
  | [] => none
  | group :: outer => some {
      modes := group.modes
      alternatives := group.alternatives
      parts := group.parts.add reading.outline.group
      repeatable := true
      outer := outer
      names := reading.names }

/-- Reads the name of a group and the bracket behind it. -/
def named? (reading : Reading) (text : List Char) : Option (Reading × List Char) :=
  let name := text.takeWhile (· ≠ '>')
  match text.dropWhile (· ≠ '>') with
  | [] => none
  | _ :: behind =>
    if isGroupName name && name ∉ reading.names then
      some ({ reading with names := name :: reading.names }.inGroup reading.modes, behind)
    else none

/-- Reads flags, for a group or from here on. -/
def flagged? (reading : Reading) (text : List Char) : Option (Reading × List Char) := do
  let isEnd (c : Char) : Bool := c = ':' || c = ')'
  let flags := text.takeWhile fun c => !isEnd c
  let modes ← reading.modes.flagged? flags
  match text.dropWhile fun c => !isEnd c with
  | ':' :: behind => some (reading.inGroup modes, behind)
  | _ :: behind =>
    if flags.isEmpty then none else some (reading.behindFlags modes, behind)
  | [] => none

/-- Reads the beginning of a group behind its parenthesis. -/
def group? (reading : Reading) (text : List Char) : Option (Reading × List Char) :=
  match reading.modes.skip text with
  | '?' :: 'P' :: '<' :: rest => reading.named? rest
  | '?' :: '<' :: rest => reading.named? rest
  | '?' :: rest => reading.flagged? rest
  | rest => some (reading.inGroup reading.modes, rest)

/-- Whether a character may stand in a pattern outside of sets. -/
def allows (reading : Reading) (c : Char) (byte : Bool) : Bool :=
  if reading.modes.unicode then !reading.modes.folded else !byte || c.toNat < 128

/-- Reads an escape outside of sets behind its backslash. -/
def escape? (reading : Reading) (text : List Char) : Option (Reading × List Char) := do
  match ← reading.modes.escape? text with
  | (.character c byte, behind) =>
    if reading.allows c byte then some (reading.behindCharacter, behind) else none
  | (.assertion known, behind) =>
    some (reading.behindPart { depth := 0, boundary := !known }, behind)
  | (.set, behind) => some (reading.behindCharacter, behind)

/-- Reads the part of a pattern that begins with a character. -/
def part? (reading : Reading) (c : Char) (rest : List Char) : Option (Reading × List Char) :=
  match c with
  | '(' => reading.group? rest
  | ')' => reading.endGroup?.map fun reading => (reading, rest)
  | '|' => some (reading.behindAlternative, rest)
  | '[' => (reading.modes.set? rest).map fun (set, behind) => (reading.behindPart set, behind)
  | '\\' => reading.escape? rest
  | '.' => if reading.modes.unicode then some (reading.behindCharacter, rest) else none
  | '^' => some (reading.behindCharacter, rest)
  | '$' => some (reading.behindCharacter, rest)
  | '{' =>
    if reading.repeatable then
      (reading.modes.repetition? rest).map fun (never, behind) =>
        (reading.behindRepetition never, dropLeading '?' behind)
    else none
  | c =>
    if c ∈ ['*', '+', '?'] then
      if reading.repeatable then some (reading.behindRepetition false, dropLeading '?' rest)
      else none
    else if reading.allows c false then some (reading.behindCharacter, rest)
    else none

/-- Whether the rest of a pattern is well formed. The fuel is a bound on the number of parts. -/
def reads : Nat → Reading → List Char → Bool
  | 0, _, _ => false
  | fuel + 1, reading, text =>
    match reading.modes.skip text with
    | [] =>
      reading.outer.isEmpty && !reading.outline.boundary && reading.outline.depth ≤ maxDepth
    | c :: rest =>
      match reading.part? c rest with
      | none => false
      | some (reading, behind) => reads fuel reading behind

end Reading

end Pattern

/-- Whether a text is a regular expression. -/
def isPattern (text : List Char) : Bool :=
  Pattern.Reading.reads (text.length + 1) .beginning text

end Mailroom.Text
