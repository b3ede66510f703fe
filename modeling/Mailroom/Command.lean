import Mailroom.Failure
/-! # Commands

The five commands by which an actor asks something of the runtime, as a keyword and an argument, and
the replies to them.

* `REG` without an argument asks for the caller's handle, and with one binds it as a name;
* `EXIT` retires the caller and `NOW` asks for the tick count, whatever the argument;
* `TIMEOUT` takes a tick count and a session with a colon between them;
* `LAUNCH` takes the name of a module and, after white space, an argument for its init.
-/

namespace Mailroom

open Text

/-- A request to the runtime. -/
inductive Command where
  | reg (name : Option String)
  | exit
  | now
  | timeout (ticks : UInt32) (session : Int32)
  | launch (module args : String)
deriving DecidableEq, Repr

namespace Command

def keyword : Command → String
  | reg _ => "REG"
  | exit => "EXIT"
  | now => "NOW"
  | timeout _ _ => "TIMEOUT"
  | launch _ _ => "LAUNCH"

/-- The name in the argument of `REG`, without white space around it and one leading dot. -/
def nameOf? (argument : List Char) : Option String :=
  match trim argument with
  | [] => none
  | named => some (String.ofList (dropLeading '.' named))

/-- The tick count and the session in the argument of `TIMEOUT`, or what is wrong with it. -/
def timesOf (argument : List Char) : Except String (UInt32 × Int32) :=
  match cut? (· = ':') argument with
  | none => .error "expected `ticks:session`"
  | some (ticks, session) =>
    match readUInt32 (trim ticks) with
    | .error cause => .error ("bad tick count: " ++ cause.message)
    | .ok ticks =>
      match readInt32 (trim session) with
      | .error cause => .error ("bad session: " ++ cause.message)
      | .ok session => .ok (ticks, session)

/-- The module and the init argument in the argument of `LAUNCH`. -/
def launchOf? (argument : List Char) : Option (String × String) :=
  let argument := trimStart argument
  let (module, args) :=
    match cut? isAsciiBlank argument with
    | some (module, rest) => (module, trim rest)
    | none => (argument, [])
  if module.isEmpty then none else some (String.ofList module, String.ofList args)

def parse (keyword argument : String) : Except CommandError Command :=
  match keyword with
  | "REG" => .ok (.reg (nameOf? argument.toList))
  | "EXIT" => .ok .exit
  | "NOW" => .ok .now
  | "TIMEOUT" =>
    match timesOf argument.toList with
    | .ok (ticks, session) => .ok (.timeout ticks session)
    | .error reason => .error (.invalidArgument keyword reason)
  | "LAUNCH" =>
    match launchOf? argument.toList with
    | some (module, args) => .ok (.launch module args)
    | none => .error (.invalidArgument keyword "missing module name")
  | _ => .error (.unknown keyword)

end Command

/-- The runtime's answer to a command that succeeded. -/
inductive Reply where
  | done
  | handle (handle : Handle)
  | name (name : String)
  | now (ticks : UInt32)
deriving DecidableEq, Repr

namespace Reply

def text : Reply → String
  | .done => ""
  | .handle issued => issued.text
  | .name bound => bound
  | .now ticks => toString ticks

end Reply

end Mailroom
