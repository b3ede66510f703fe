import Mailroom.Handle
import Mailroom.Text.Blank
import Mailroom.Text.Numeral
/-! # Addresses

A message is addressed to a handle or to a name. A text that starts with a colon is the text of a
handle, in digits of either case and in any number that stays within 32 bits. Any other text is a
name, and one leading dot of it is a mark and not a part of the name.
-/

namespace Mailroom

open Text

/-- Why a text is no address. -/
inductive AddressError where
  | empty
  | malformed (text : String)
deriving DecidableEq, Repr

namespace AddressError

def message : AddressError → String
  | empty => "Address is empty"
  | malformed text => "Malformed address: " ++ text

end AddressError

namespace Handle

/-- The handle whose digits follow a colon. -/
def ofChars? : List Char → Option Handle
  | ':' :: digits =>
    (readNatural 16 (UInt32.size - 1) digits).toOption.map fun n => ⟨UInt32.ofNat n⟩
  | _ => none

def parse (text : String) : Except AddressError Handle :=
  match ofChars? text.toList with
  | some handle => .ok handle
  | none => .error (.malformed text)

end Handle

/-- Where a message is sent. -/
inductive Address where
  | handle (handle : Handle)
  | name (name : String)
deriving DecidableEq, Repr

namespace Address

def text : Address → String
  | .handle target => target.text
  | .name label => "." ++ label

/-- The handle of an address that is not a name. -/
def handle? : Address → Option Handle
  | .handle target => some target
  | .name _ => none

def parse (text : String) : Except AddressError Address :=
  match text.toList with
  | [] => .error .empty
  | ':' :: _ => (Handle.parse text).map .handle
  | chars =>
    match dropLeading '.' chars with
    | [] => .error (.malformed text)
    | named => .ok (.name (String.ofList named))

end Address

end Mailroom
