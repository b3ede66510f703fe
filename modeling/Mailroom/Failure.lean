import Mailroom.Address
/-! # Failures

What can go wrong between an actor, the runtime and its host, by cause. Each kind of failure has a
message and a list of causes: the messages of the failures it wraps, outermost first. Some failures
only pass on another one. Those show its message as their own and add nothing to its causes, so a
launch that fails inside a launch names every level once.
-/

namespace Mailroom

/-- Why a message was not delivered to a mailbox. -/
inductive SendError where
  | unknownName (name : String)
  | unknownHandle (handle : Handle)
  | released (handle : Handle)
  | invalidAddress (cause : AddressError)
  | shuttingDown
deriving DecidableEq, Repr

namespace SendError

def message : SendError → String
  | unknownName name => "No actor is bound to name: " ++ name
  | unknownHandle handle => "No live actor for handle " ++ handle.text
  | released handle => "Actor " ++ handle.text ++ " is being destroyed"
  | invalidAddress cause => "Invalid address: " ++ cause.message
  | shuttingDown => "Runtime is shutting down"

def causes : SendError → List String
  | invalidAddress cause => [cause.message]
  | _ => []

end SendError

/-- Why a name was not bound. -/
inductive BindError where
  | alreadyExists (name : String)
  | unknownHandle (handle : Handle)
  | empty
deriving DecidableEq, Repr

namespace BindError

def message : BindError → String
  | alreadyExists name => "Name already exists: " ++ name
  | unknownHandle handle => "Cannot bind a name to unknown handle " ++ handle.text
  | empty => "Name must not be empty"

end BindError

/-- Why a callback was not registered. -/
inductive CallbackError where
  | alreadySet (handle : Handle)
deriving DecidableEq, Repr

namespace CallbackError

def message : CallbackError → String
  | alreadySet handle => "Callback already registered for actor " ++ handle.text

end CallbackError

mutual

/-- Why an actor's init failed: a text of its own, or a failed request that it passed on. -/
inductive InitError where
  | failed (reason : String)
  | callback (cause : CallbackError)
  | other (text : String)
  | command (cause : CommandError)
  | send (cause : SendError)

/-- Why no actor was launched. -/
inductive LaunchError where
  | moduleNotFound (name : String)
  | moduleExists (name : String)
  | createFailed (module reason : String)
  | initFailed (module : String) (cause : InitError)
  | shuttingDown

/-- Why a command had no effect. -/
inductive CommandError where
  | unknown (keyword : String)
  | invalidArgument (keyword reason : String)
  | bind (cause : BindError)
  | launch (cause : LaunchError)
  | send (cause : SendError)

end

instance : Inhabited InitError := ⟨.failed ""⟩
instance : Inhabited LaunchError := ⟨.shuttingDown⟩
instance : Inhabited CommandError := ⟨.unknown ""⟩

deriving instance DecidableEq for InitError
deriving instance DecidableEq for LaunchError
deriving instance DecidableEq for CommandError

mutual

def InitError.message : InitError → String
  | .failed reason => "Initialization failed: " ++ reason
  | .callback cause => cause.message
  | .other text => text
  | .command cause => cause.message
  | .send cause => cause.message

def LaunchError.message : LaunchError → String
  | .moduleNotFound name => "Module not found: " ++ name
  | .moduleExists name => "Module already registered: " ++ name
  | .createFailed module reason =>
    "Module " ++ module ++ " failed to create an instance: " ++ reason
  | .initFailed module cause => "Module " ++ module ++ " failed to initialize: " ++ cause.message
  | .shuttingDown => "Runtime is shutting down"

def CommandError.message : CommandError → String
  | .unknown keyword => "Unknown command: " ++ keyword
  | .invalidArgument keyword reason => "Invalid argument for " ++ keyword ++ ": " ++ reason
  | .bind cause => cause.message
  | .launch cause => cause.message
  | .send cause => cause.message

end

mutual

def InitError.causes : InitError → List String
  | .failed _ => []
  | .callback _ => []
  | .other _ => []
  | .command cause => cause.causes
  | .send cause => cause.causes

def LaunchError.causes : LaunchError → List String
  | .initFailed _ cause => cause.message :: cause.causes
  | .moduleNotFound _ => []
  | .moduleExists _ => []
  | .createFailed _ _ => []
  | .shuttingDown => []

def CommandError.causes : CommandError → List String
  | .unknown _ => []
  | .invalidArgument _ _ => []
  | .bind _ => []
  | .launch cause => cause.causes
  | .send cause => cause.causes

end

/-- Why a configuration is not accepted. -/
inductive ConfigError where
  | zero (setting : String)
deriving DecidableEq, Repr

namespace ConfigError

def message : ConfigError → String
  | zero setting => "Configuration value `" ++ setting ++ "` must be greater than zero"

end ConfigError

/-- Why an engine was not built, started or stopped. -/
inductive EngineError where
  | config (cause : ConfigError)
  | alreadyRunning
  | shuttingDown
  | threadSetup (reason : String)
  | other (text : String)
deriving DecidableEq, Repr

namespace EngineError

def message : EngineError → String
  | config cause => "Invalid configuration: " ++ cause.message
  | alreadyRunning => "Actor system is already running"
  | shuttingDown => "Actor system is shutting down"
  | threadSetup reason => "Thread setup error: " ++ reason
  | other text => text

def causes : EngineError → List String
  | config cause => [cause.message]
  | _ => []

end EngineError

end Mailroom
