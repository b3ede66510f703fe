import Mailroom.Text.Invisible
/-! # Quoted text

A quoted text stands between double quotes. Quotes and backslashes are escaped by a backslash, four
controls have a letter of their own, and every other invisible character is spelled by its code
point in hexadecimal.
-/

namespace Mailroom.Text

/-- A number in lower-case hexadecimal, without leading zeros. -/
def hexadecimal (n : Nat) : String := String.ofList (Nat.toDigits 16 n)

def escape (c : Char) : String :=
  match c with
  | '\x00' => "\\0"
  | '\t' => "\\t"
  | '\r' => "\\r"
  | '\n' => "\\n"
  | '\\' => "\\\\"
  | '"' => "\\\""
  | _ => if isInvisible c then "\\u\x7b" ++ hexadecimal c.toNat ++ "\x7d" else c.toString

def quoted (text : String) : String :=
  "\"" ++ String.join (text.toList.map escape) ++ "\""

end Mailroom.Text
