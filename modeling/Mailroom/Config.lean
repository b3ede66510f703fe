import Mailroom.Failure
import Mailroom.Text.Duration
import Mailroom.Text.Quoted
import Mailroom.Text.Record
/-! # Configuration

The sizes and durations of an engine. Sizes are only where things start: mailboxes, the run queue
and the directory grow. Durations are in nanoseconds.
-/

namespace Mailroom

structure Config where
  workerThreads : Nat
  runQueueRoom : Nat
  mailboxCapacity : Nat
  handleSlots : Nat
  tickLength : Nat
  idleSleep : Nat
  /-- The most messages that an actor receives each time its mailbox is serviced. -/
  messagesPerRun : Nat
  deadLetterCapacity : Nat
  /-- Worker threads are named by this text and their number. -/
  threadLabel : String
deriving DecidableEq, Repr

namespace Config

def standard : Config where
  workerThreads := 1
  runQueueRoom := 64
  mailboxCapacity := 64
  handleSlots := 4
  tickLength := 10000000
  idleSleep := 10000000
  messagesPerRun := 1
  deadLetterCapacity := 1024
  threadLabel := "starling-worker-"

/-- The settings that must not be zero, in the order in which they are checked. -/
def settings (config : Config) : List (String × Nat) :=
  [("worker_threads", config.workerThreads),
    ("global_queue_capacity", config.runQueueRoom),
    ("mailbox_capacity", config.mailboxCapacity),
    ("handle_slots", config.handleSlots),
    ("max_messages_per_run", config.messagesPerRun),
    ("dead_letter_capacity", config.deadLetterCapacity),
    ("tick", config.tickLength),
    ("idle_sleep", config.idleSleep)]

/-- Refuses a configuration by the first of its settings that is zero. -/
def validate (config : Config) : Except ConfigError Unit :=
  match config.settings.find? (·.2 = 0) with
  | some (setting, _) => .error (.zero setting)
  | none => .ok ()

/-- The record form of a configuration. -/
def record (config : Config) : String :=
  Text.record "RuntimeConfig" [("worker_threads", toString config.workerThreads),
    ("global_queue_capacity", toString config.runQueueRoom),
    ("mailbox_capacity", toString config.mailboxCapacity),
    ("handle_slots", toString config.handleSlots),
    ("tick", Text.duration config.tickLength),
    ("idle_sleep", Text.duration config.idleSleep),
    ("max_messages_per_run", toString config.messagesPerRun),
    ("dead_letter_capacity", toString config.deadLetterCapacity),
    ("thread_name_prefix", Text.quoted config.threadLabel)]

end Config

end Mailroom
