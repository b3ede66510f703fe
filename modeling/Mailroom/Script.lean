import Mailroom.Program
import Mailroom.Text.Bytes
/-! # Scripted actors

Actors that are described by lists of steps, one list for the init and one for messages. A step is
an action, a guard on the message, and whether an error ends the script. The actor reports every
message it receives and the answer of every action. Some spellings in a step stand for what is known
when it runs: the init's argument, the message's payload or session, the actor itself, the message's
source.
-/

namespace Mailroom.Script

open Text

/-- An action with its guard; `must` says whether an error ends the script. A guard may ask for a
number that no session has. -/
structure Guarded (α : Type) where
  ifPayload : Option Payload
  ifSession : Option Int
  must : Bool
  action : α

/-- What a step does. A payload or session that is not given is the message's. -/
inductive Action where
  | send (destination : String) (payload : Option Payload) (session : Option Int32)
  | command (keyword argument : String)
  | timeout (ticks : UInt32) (session : Option Int32)
  | exit
  /-- Registers a callback with a body of its own, or with the actor's list for messages. -/
  | setCallback (body : Option (List (Guarded Action)))
  | fail (message : String)
  | failOther (message : String)
  | panic (text : Option String)
  /-- Reports the actor's own handle. -/
  | own (name : String)

abbrev Step := Guarded Action

instance : Inhabited Action := ⟨.exit⟩
instance : Inhabited Step :=
  ⟨{ ifPayload := none, ifSession := none, must := false, action := .exit }⟩

/-- A callback: what the script was launched with, and the steps to run on a message. -/
structure Callback where
  args : String
  onMessage : List Step
  body : List Step

/-- What is known when a step runs. An init has no message. -/
structure Frame where
  self : Handle
  args : String
  message : Option Message
  onMessage : List Step

namespace Frame

def payload (frame : Frame) : Payload := (frame.message.map (·.payload)).getD []

def session (frame : Frame) : Int32 := (frame.message.map (·.session)).getD 0

def source (frame : Frame) : Option Handle := frame.message.bind (·.source)

/-- The text that a text in a step stands for. -/
def expand (frame : Frame) (text : String) : String :=
  if text = "$args" then frame.args
  else if text = "$payload" then decode frame.payload
  else text

/-- The destination that a text in a step stands for; nothing if the message has no source. -/
def destination? (frame : Frame) (text : String) : Option (Except AddressError Address) :=
  if text = "$self" then some (.ok (.handle frame.self))
  else if text = "$source" then frame.source.map fun source => .ok (.handle source)
  else some (Address.parse (frame.expand text))

/-- Whether a step is run: its guard, if it has one, holds of the message. -/
def admits (frame : Frame) (step : Step) : Bool :=
  match frame.message with
  | none => true
  | some message =>
    step.ifPayload.all (· = message.payload) && step.ifSession.all (· = message.session.toInt)

end Frame

/-- Reports an answer and goes on, unless the answer is an error that ends the script. -/
def answer {ε α : Type} (must : Bool) (cause : ε → InitError) (action : String)
    (outcome : Except ε α → Outcome) (rest : Program Callback) (result : Except ε α) :
    Program Callback :=
  .report ⟨action, outcome result⟩ <|
    match result with
    | .ok _ => rest
    | .error failure => if must then .finish (.error (cause failure)) else rest

/-- Runs a command that has no reply to report. -/
def order (must : Bool) (action : String) (command : Command) (rest : Program Callback) :
    Program Callback :=
  .command command fun result => answer must .command action .done rest (result.map fun _ => ())

/-- The program of a list of steps. -/
def run (frame : Frame) : List Step → Program Callback
  | [] => .finish (.ok ())
  | step :: steps =>
    let rest := run frame steps
    if frame.admits step then
      match step.action with
      | .send destination payload session =>
        match frame.destination? destination with
        | none => .report ⟨"send", .noSource⟩ rest
        | some (.error cause) =>
          answer step.must .send "send" .sent rest (.error (.invalidAddress cause))
        | some (.ok address) =>
          .send address (session.getD frame.session) (payload.getD frame.payload)
            (answer step.must .send "send" .sent rest)
      | .command keyword argument =>
        match Command.parse (frame.expand keyword) (frame.expand argument) with
        | .error cause => answer step.must .command "command" .commanded rest (.error cause)
        | .ok command => .command command (answer step.must .command "command" .commanded rest)
      | .timeout ticks session =>
        order step.must "timeout" (.timeout ticks (session.getD frame.session)) rest
      | .exit => order step.must "exit" .exit rest
      | .setCallback body =>
        .setCallback ⟨frame.args, frame.onMessage, body.getD frame.onMessage⟩
          (answer step.must .callback "set_callback" .calledBack rest)
      | .fail message => .finish (.error (.failed (frame.expand message)))
      | .failOther message => .finish (.error (.other (frame.expand message)))
      | .panic text => .panic (text.map frame.expand)
      | .own name => .report ⟨name, .own frame.self⟩ rest
    else rest

/-- An actor that runs one list of steps as its init and another on messages. -/
def behaviour (init onMessage : List Step) : Instance Callback where
  init self args := run { self, args, message := none, onMessage } init
  receive callback self message :=
    .report ⟨"recv", .received message⟩ <|
      run { self, args := callback.args, message := some message,
            onMessage := callback.onMessage } callback.body

/-- An actor that does nothing. -/
def idle : Instance Callback where
  init _ _ := .finish (.ok ())
  receive _ _ _ := .finish (.ok ())

end Mailroom.Script
