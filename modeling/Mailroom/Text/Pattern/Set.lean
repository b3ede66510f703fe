import Mailroom.Text.Pattern.Modes
import Mailroom.Text.Pattern.Outline
/-! # Sets of characters in brackets

A set has characters, ranges, named classes and further sets as its items, and operators between
them. Operators associate to the left, and there may be nothing on either side of one.
-/

namespace Mailroom.Text.Pattern

/-- A set that has been read up to one of its items. -/
structure OpenSet where
  /-- What is in front of the last operator, if there is an operator. -/
  operand? : Option Outline
  /-- The items behind the last operator. -/
  items : Siblings

namespace OpenSet

/-- A set that begins with so many characters. -/
def beginning (characters : Nat) : OpenSet :=
  { operand? := none, items := { Siblings.none with count := characters } }

/-- The set with one more item. -/
def add (set : OpenSet) (item : Outline) : OpenSet := { set with items := set.items.add item }

/-- The set with one more character, range or named class. -/
def addCharacters (set : OpenSet) : OpenSet := set.add (.ofDepth 0)

/-- The outline of what is in the set. An operator is one deeper than its operands. -/
def content (set : OpenSet) : Outline :=
  match set.operand? with
  | none => set.items.outline
  | some operand => (operand.join set.items.outline).group

/-- The outline of the set. -/
def outline (set : OpenSet) : Outline := set.content.group

/-- The set behind one more operator: all that is in front of it is the left operand. -/
def behindOperator (set : OpenSet) : OpenSet := { operand? := some set.content, items := .none }

end OpenSet

namespace Modes

/-- Whether a character may be in a set. The cases of a character are beyond what is known of it. -/
def allowsInSet (modes : Modes) (c : Char) : Bool :=
  if modes.unicode then !modes.folded else c.toNat < 128

/-- Reads an item of a set: a character or a class. -/
def setItem? (modes : Modes) : List Char → Option (Part × List Char)
  | [] => none
  | '\\' :: rest => do
    match ← modes.escape? rest with
    | (.assertion _, _) => none
    | item => some item
  | c :: rest => some (.character c false, rest)

/-- Reads an item of a set, or a range from one character up to another. -/
def setRange? (modes : Modes) (text : List Char) : Option (List Char) := do
  let (first, rest) ← modes.setItem? text
  let single : Option (List Char) :=
    match first with
    | .character c _ => if modes.allowsInSet c then some rest else none
    | _ => some rest
  match modes.skip rest with
  | '-' :: behind =>
    if modes.peek behind ∈ [some ']', some '-'] then single
    else
      match first, ← modes.setItem? (modes.skip behind) with
      | .character low _, (.character high _, rest) =>
        if low ≤ high && modes.allowsInSet low && modes.allowsInSet high then some rest else none
      | _, _ => none
  | _ => single

/-- The classes of ASCII characters that a set can name. -/
def asciiClasses : List String :=
  ["alnum", "alpha", "ascii", "blank", "cntrl", "digit", "graph", "lower", "print", "punct",
    "space", "upper", "word", "xdigit"]

/-- Reads a named class behind the bracket that opens it: whether it is negated, and what is behind
it. -/
def asciiClass? (text : List Char) : Option (Bool × List Char) :=
  match text with
  | ':' :: rest =>
    let name := dropLeading '^' rest
    match name.dropWhile (· ≠ ':') with
    | ':' :: ']' :: behind =>
      if String.ofList (name.takeWhile (· ≠ ':')) ∈ asciiClasses then
        some (rest.head? = some '^', behind)
      else none
    | _ => none
  | _ => none

/-- Whether a named class may be in a set. -/
def allowsClass (modes : Modes) (negated : Bool) : Bool :=
  if modes.unicode then !modes.folded else !negated

/-- Reads the beginning of a set behind its bracket: a negation, and the dashes or the closing
bracket that stand for themselves there. -/
def openSet? (modes : Modes) (text : List Char) : Option (OpenSet × List Char) :=
  let start := modes.skip text
  if start.head? = some '^' && !modes.unicode then none
  else
    let (characters, behind) :=
      match modes.collect (· = '-') false (dropLeading '^' start) with
      | ([], ']' :: rest) => ([']'], rest)
      | begun => begun
    if characters.all modes.allowsInSet then some (.beginning characters.length, behind) else none

/-- Reads a set up to its end, and the sets around it up to theirs, the innermost first. Returns the
outline of the outermost set and what is behind it. The fuel is a bound on the number of items. -/
def closeSet? (modes : Modes) :
    Nat → OpenSet → List OpenSet → List Char → Option (Outline × List Char)
  | 0, _, _, _ => none
  | fuel + 1, set, outer, text =>
    match modes.skip text with
    | [] => none
    | ']' :: rest =>
      match outer with
      | [] => some (set.outline, rest)
      | parent :: outer => modes.closeSet? fuel (parent.add set.outline) outer rest
    | '[' :: rest =>
      match asciiClass? rest with
      | some (negated, rest) =>
        if modes.allowsClass negated then modes.closeSet? fuel set.addCharacters outer rest
        else none
      | none =>
        (modes.openSet? rest).bind fun (inner, rest) =>
          modes.closeSet? fuel inner (set :: outer) rest
    | '&' :: '&' :: rest => modes.closeSet? fuel set.behindOperator outer rest
    | '-' :: '-' :: rest => modes.closeSet? fuel set.behindOperator outer rest
    | '~' :: '~' :: rest => modes.closeSet? fuel set.behindOperator outer rest
    | item => (modes.setRange? item).bind (modes.closeSet? fuel set.addCharacters outer)

/-- Reads a set behind its bracket: its outline and what is behind it. -/
def set? (modes : Modes) (text : List Char) : Option (Outline × List Char) := do
  let (set, behind) ← modes.openSet? text
  modes.closeSet? (text.length + 1) set [] behind

end Modes

end Mailroom.Text.Pattern
