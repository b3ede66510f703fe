import Mailroom.Journal.Line
import Mailroom.Text.Alphanumeric
import Mailroom.Text.Blank
import Mailroom.Text.Bytes
import Mailroom.Text.Numeral
import Mailroom.Text.Pattern
/-! # Directives

A directive gives a level to the events whose targets begin with its own target, or to every event
if it has none. In brackets it may ask for a span around the event, and in braces for a field that
the event must have, and for a value of that field: `target[span{field=value}]=level`. Every part
may be left out. A value is a number or a pattern; any text between the first two equals signs of
the field is read as one.

The marks between the parts are looked for in the text without the white space around it, but the
parts are cut from the whole text, at the same positions. Behind leading white space the parts thus
begin and end too early, and a position may lie inside a character: the text is torn.
-/

namespace Mailroom.Logging

open Text

/-- The least severe level that is shown; nothing is shown without one. -/
abbrev Threshold := Option Level

def rank : Level → Nat
  | .error => 1
  | .warn => 2
  | .info => 3
  | .debug => 4
  | .trace => 5

def lower (text : List Char) : String := String.ofList (text.map Char.toLower)

/-- The threshold at a level's rank; nothing is shown at zero. -/
def ofRank? : Nat → Option Threshold
  | 0 => some none
  | 1 => some (some .error)
  | 2 => some (some .warn)
  | 3 => some (some .info)
  | 4 => some (some .debug)
  | 5 => some (some .trace)
  | _ => none

/-- Reads a threshold: the name of a level in letters of either case, or its rank as a numeral of 64
bits. -/
def threshold? (text : List Char) : Option Threshold :=
  match lower text with
  | "off" => some none
  | "error" => some (some .error)
  | "warn" => some (some .warn)
  | "info" => some (some .info)
  | "debug" => some (some .debug)
  | "trace" => some (some .trace)
  | _ => (readNatural 10 18446744073709551615 text).toOption.bind ofRank?

/-- Why a text is no directive. -/
inductive Misread where
  | malformed
  /-- A part of the directive begins or ends inside a character. -/
  | torn
deriving DecidableEq, Repr

/-- A threshold for the events of some targets, or of all. -/
structure Directive where
  target : Option (List Char)
  /-- A span that an event must be inside. -/
  span : Option (List Char)
  /-- A field that an event must have, together with its value if one is asked for. -/
  field : Option (List Char)
  threshold : Threshold
deriving DecidableEq, Repr

namespace Directive

/-- A directive for the events of some targets, or of all, that asks for nothing else. -/
def ofTarget (target : Option (List Char)) (threshold : Threshold) : Directive :=
  { target, span := none, field := none, threshold }

/-- The characters that a target begins with. -/
def isTargetStart (c : Char) : Bool :=
  isAlphanumeric c || c = '_' || c = ':' || c = '-'

/-- The part of a text between two positions. -/
def part (start stop : Nat) (text : List Char) : Except Misread (List Char) :=
  match slice? start stop text with
  | some part => .ok part
  | none => .error .torn

/-- The threshold that a text gives from a position on. Everything is shown where it is left out. -/
def readLevel (text : List Char) (start : Nat) : Except Misread Threshold := do
  match ← part start (size text) text with
  | [] => return some .trace
  | level =>
    match threshold? level with
    | some threshold => return threshold
    | none => throw .malformed

/-- Whether a field asks for no value, or for one that is a number or a pattern. -/
def isField (field : List Char) : Bool :=
  match cut? (· = '=') field with
  | none => true
  | some (_, values) =>
    let value := values.takeWhile (· ≠ '=')
    isDecimal value || isPattern value

/-! The functions below take what is left of the text without the white space around it, and the
position where that begins; the whole text is `text`. -/

/-- Completes a directive by what is behind its bracket. -/
def readEnd (text : List Char) (directive : Directive) (start : Nat) :
    List Char → Except Misread Directive
  | [] => return directive
  | '=' :: _ => do return { directive with threshold := ← readLevel text (start + 1) }
  | _ => throw .malformed

/-- Completes a directive behind the brace that begins its field. -/
def readField (text : List Char) (directive : Directive) (start : Nat) (rest : List Char) :
    Except Misread Directive :=
  let stop := start + size (rest.takeWhile (· ≠ '}'))
  match rest.dropWhile (· ≠ '}') with
  | [] => throw .malformed
  | _ :: behind => do
    let field ← part start stop text
    if field.isEmpty || !isField field then throw .malformed
    match behind with
    | ']' :: rest => readEnd text { directive with field := some field } (stop + 2) rest
    | _ => throw .malformed

/-- Completes a directive behind the bracket that begins its span. -/
def readSpan (text : List Char) (directive : Directive) (start : Nat) (rest : List Char) :
    Except Misread Directive :=
  let isMark (c : Char) : Bool := c = ']' || c = '{'
  let stop := start + size (rest.takeWhile fun c => !isMark c)
  match rest.dropWhile fun c => !isMark c with
  | [] => throw .malformed
  | mark :: behind => do
    let span ← part start stop text
    if mark = ']' then readEnd text { directive with span := some span } (stop + 1) behind
    else
      let span := if span.isEmpty then none else some span
      readField text { directive with span } (stop + 1) behind

/-- Reads a directive. A text without a mark is a threshold, or else a target by itself, which shows
everything. -/
def parse (text : List Char) : Except Misread Directive :=
  match trim text with
  | [] => throw .malformed
  | '[' :: rest => readSpan text (ofTarget none (some .trace)) 1 rest
  | first :: rest =>
    let isMark (c : Char) : Bool := c = '=' || c = '['
    let stop := size ((first :: rest).takeWhile fun c => !isMark c)
    if !isTargetStart first then throw .malformed
    else
      match rest.dropWhile fun c => !isMark c with
      | [] =>
        match threshold? text with
        | some threshold => return ofTarget none threshold
        | none => return ofTarget (some text) (some .trace)
      | mark :: behind => do
        let target ← part 0 stop text
        if mark = '=' then return ofTarget (some target) (← readLevel text (stop + 1))
        else readSpan text (ofTarget (some target) (some .trace)) (stop + 1) behind

/-- The field of an event that holds its text. Events have no other. -/
def textField : List Char := "message".toList

/-- Whether a directive is about the events of a target. No event is inside a span. -/
def isAbout (directive : Directive) (target : List Char) : Bool :=
  (directive.target.getD []).isPrefixOf target && directive.span.isNone &&
    directive.field.all (· = textField)

/-- Whether two directives ask for the same. -/
def asksLike (left right : Directive) : Bool :=
  left.target = right.target && left.span = right.span && left.field = right.field

/-- How much a directive asks for: the longer target more than any field, and a field more than
none. -/
def specificity (directive : Directive) : Nat :=
  2 * (directive.target.getD []).length + (if directive.field.isSome then 1 else 0)

end Directive

end Mailroom.Logging
