import Mailroom.Text.Blank
import Mailroom.Text.Numeral
/-! # The modes of a pattern

The modes say which characters of a pattern mean nothing and what a backslash can begin. Whatever is
read between the parts of a pattern or behind a backslash is read in a mode.
-/

namespace Mailroom.Text.Pattern

/-- What flags switch. -/
structure Modes where
  /-- White space and comments between the parts of a pattern mean nothing. -/
  spaced : Bool
  /-- A letter stands for both of its cases. -/
  folded : Bool
  /-- The pattern is about characters, not about bytes. -/
  unicode : Bool
deriving DecidableEq, Repr

namespace Modes

def standard : Modes := { spaced := false, folded := false, unicode := true }

/-- Collects characters for as long as they are accepted, and returns them and what is behind them.
White space and comments between them are passed over if they mean nothing. -/
def collect (modes : Modes) (accepted : Char → Bool) (comment : Bool) :
    List Char → List Char × List Char
  | [] => ([], [])
  | c :: rest =>
    if comment then modes.collect accepted (c ≠ '\n') rest
    else if modes.spaced && isBlank c then modes.collect accepted false rest
    else if modes.spaced && c = '#' then modes.collect accepted true rest
    else if accepted c then
      let (taken, behind) := modes.collect accepted false rest
      (c :: taken, behind)
    else ([], c :: rest)

/-- Passes over white space and comments if they mean nothing. -/
def skip (modes : Modes) (text : List Char) : List Char :=
  (modes.collect (fun _ => false) false text).2

/-- The character that says whether a dash in a set makes a range: the next one behind the dash.
Where white space and comments mean nothing, white space is passed over, and so is the sign of a
comment, but not what is in the comment. -/
def peek (modes : Modes) (text : List Char) : Option Char :=
  if modes.spaced then
    match text.dropWhile isBlank with
    | '#' :: comment => (comment.dropWhile isBlank).head?
    | next => next.head?
  else text.head?

/-! ### Escapes -/

/-- A single character of a pattern or of a set, or something else that a backslash begins. -/
inductive Part where
  /-- A character; `byte` says that it was spelled by two digits. -/
  | character (c : Char) (byte : Bool)
  /-- A class of characters. -/
  | set
  /-- An end of the text, or a boundary between words; `known` says that it is known where it is. -/
  | assertion (known : Bool)

def isHexDigit (c : Char) : Bool := (digit? 16 c).isSome

/-- The character that hexadecimal digits spell. -/
def spelled? (digits : List Char) : Option Char := do
  if digits.isEmpty then none
  let value ← (readDigits 16 1114111 .tooLarge 0 digits).toOption
  if value.isValidChar then some (Char.ofNat value) else none

/-- Takes a number of hexadecimal digits. -/
def hexDigits? (modes : Modes) : Nat → List Char → Option (List Char × List Char)
  | 0, text => some ([], text)
  | count + 1, text =>
    match modes.skip text with
    | [] => none
    | c :: rest =>
      if isHexDigit c then
        (modes.hexDigits? count rest).map fun (digits, behind) => (c :: digits, behind)
      else none

/-- Reads a character that is spelled by so many hexadecimal digits, or by digits in braces. -/
def spelling? (modes : Modes) (count : Nat) (text : List Char) : Option (Part × List Char) :=
  match modes.skip text with
  | '{' :: rest =>
    match modes.collect isHexDigit false rest with
    | (digits, '}' :: behind) => (spelled? digits).map fun c => (.character c false, behind)
    | _ => none
  | text => do
    let (digits, behind) ← modes.hexDigits? count text
    let c ← spelled? digits
    some (.character c (count = 2), behind)

/-- What a letter behind a backslash stands for, if it is a character that cannot be seen. -/
def control? : Char → Option Char
  | 'a' => some '\x07'
  | 'f' => some '\x0c'
  | 't' => some '\t'
  | 'n' => some '\n'
  | 'r' => some '\r'
  | 'v' => some '\x0b'
  | _ => none

/-- Passes over a kind of word boundary in braces. What begins like no kind is left alone: it may be
a repetition. -/
def boundaryKind? (modes : Modes) (text : List Char) : Option (List Char) :=
  match text with
  | '{' :: rest =>
    match modes.collect (fun c => c.isAlpha || c = '-') false rest with
    | ([], []) => none
    | ([], _) => some text
    | (kind, '}' :: behind) =>
      if String.ofList kind ∈ ["start", "end", "start-half", "end-half"] then some behind else none
    | _ => none
  | _ => some text

/-- Reads what is behind a backslash. -/
def escape? (modes : Modes) : List Char → Option (Part × List Char)
  | [] => none
  | 'x' :: rest => modes.spelling? 2 rest
  | 'u' :: rest => modes.spelling? 4 rest
  | 'U' :: rest => modes.spelling? 8 rest
  | 'A' :: rest => some (.assertion true, rest)
  | 'z' :: rest => some (.assertion true, rest)
  | 'b' :: rest =>
    (modes.boundaryKind? rest).map fun behind => (.assertion !modes.unicode, behind)
  | c :: rest =>
    if c ∈ ['B', '<', '>'] then some (.assertion !modes.unicode, rest)
    else if c ∈ ['d', 's', 'w'] then if modes.unicode then none else some (.set, rest)
    else
      match control? c with
      | some control => some (.character control false, rest)
      | none =>
        if c.toNat < 128 && !c.isAlphanum then some (.character c false, rest) else none

end Modes

end Mailroom.Text.Pattern
