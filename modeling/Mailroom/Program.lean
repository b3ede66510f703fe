import Mailroom.Command
import Mailroom.Message
/-! # Programs of actors

What an actor does while its init or its callback runs: requests to the runtime one after another,
each with a continuation for every answer. A program is finite, but callbacks can register callbacks
without end, so a program names a callback by a key and the actor's instance says what the key
stands for.
-/

namespace Mailroom

/-- The answer that one of an actor's actions got, as the actor tells it. -/
inductive Outcome where
  | received (message : Message)
  | sent (result : Except SendError Int32)
  /-- The message had no source to answer to. -/
  | noSource
  | commanded (result : Except CommandError Reply)
  /-- A command whose reply says nothing. -/
  | done (result : Except CommandError Unit)
  | calledBack (result : Except CallbackError Unit)
  | own (handle : Handle)

/-- What an actor tells of itself: an action and the answer it got. -/
structure Report where
  action : String
  outcome : Outcome

/-- A program over callbacks that are named by keys of a type. -/
inductive Program (κ : Type) where
  /-- Ends. A callback's outcome is not looked at. -/
  | finish (outcome : Except InitError Unit)
  /-- Breaks off, with a text or with something that is not text. -/
  | panic (text : Option String)
  /-- Sends a message; a negative session asks for a new one. -/
  | send (destination : Address) (session : Int32) (payload : Payload)
      (next : Except SendError Int32 → Program κ)
  | command (command : Command) (next : Except CommandError Reply → Program κ)
  /-- Registers the actor's callback. -/
  | setCallback (key : κ) (next : Except CallbackError Unit → Program κ)
  /-- Changes the key of the actor's callback, if it has one. -/
  | become (key : κ) (next : Program κ)
  | report (report : Report) (next : Program κ)

/-- What is shown of a program that broke off. -/
def panicText : Option String → String
  | some text => text
  | none => "non-string panic payload"

/-- The behaviour of one actor: its init, from its own handle and its argument, and what it does on
a message. -/
structure Instance (κ : Type) where
  init : Handle → String → Program κ
  receive : κ → Handle → Message → Program κ

/-- Where instances come from. -/
structure Module (κ : Type) where
  create : Except InitError (Instance κ)

end Mailroom
