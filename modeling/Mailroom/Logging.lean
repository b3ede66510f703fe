import Mailroom.Logging.Filter
import Mailroom.Logging.Place
/-! # Showing the log

How the log is shown is chosen once: the first installation that succeeds decides it for good. A
console shows events as text or as JSON objects; an installation with a file shows them as text in
both places. What is said of the looks of an output is what its first line has.

Only the first installation reads the directives of the environment. If one of these is torn, the
program breaks off there, and no display is installed.
-/

namespace Mailroom

namespace Logging

open Text

/-- The choices of an installation. -/
structure Options where
  level : Level
  json : Bool
  fileLine : Bool
  threadInfo : Bool
  time : Bool
  /-- Directives between commas, in addition to the level. -/
  targetFilters : Option String
deriving DecidableEq, Repr

namespace Options

def standard : Options where
  level := .info
  json := false
  fileLine := true
  threadInfo := true
  time := true
  targetFilters := none

/-- Everything down to debug, and timer and scheduler down to trace. -/
def development : Options := { standard with
  level := .debug
  targetFilters := some "starling::timer=trace,starling::scheduler=trace" }

/-- JSON without source locations. -/
def production : Options := { standard with json := true, fileLine := false }

/-- Warnings and errors, in short lines. -/
def test : Options := { standard with level := .warn, threadInfo := false, time := false }

/-- The filter of an installation in an environment that may have directives of its own. The level
takes the place of the environment's level for all targets. There is no filter if a directive is
torn. -/
def filter? (options : Options) (environment : Option String) : Option Filter := do
  let inherited := pieces ',' (environment.getD "").toList
  let own := (pieces ',' (options.targetFilters.getD "").toList).map trim
  let filter ← (Filter.ofThreshold (some .error)).addAll? inherited
  (filter.add (.ofTarget none (some options.level))).addAll? own

end Options

/-- The looks of an output. -/
structure Looks where
  /-- The keys of the objects, in ascending order, if events are shown as JSON objects. -/
  jsonKeys : Option (List String)
  time : Bool
  thread : Bool
  fileLine : Bool
deriving DecidableEq, Repr

namespace Looks

def ofText (time thread fileLine : Bool) : Looks := { jsonKeys := none, time, thread, fileLine }

/-- The looks of events as JSON objects, which do not begin with the time. -/
def ofJson (thread fileLine : Bool) : Looks where
  jsonKeys := some ((if fileLine then ["filename"] else []) ++ ["level"] ++
    (if fileLine then ["line_number"] else []) ++ ["message", "target"] ++
    (if thread then ["threadId", "threadName"] else []) ++ ["timestamp"])
  time := false
  thread
  fileLine

end Looks

/-- How the log is shown. -/
structure Display where
  filter : Filter
  console : Looks
  /-- The place and the looks of the log file, if there is one. -/
  file : Option (Place × Looks)
deriving Repr

namespace Display

def onConsole (options : Options) (filter : Filter) : Display where
  filter
  console :=
    if options.json then .ofJson options.threadInfo options.fileLine
    else .ofText options.time options.threadInfo options.fileLine
  file := none

/-- The console and a file, which has everything on its lines. -/
def withFile (options : Options) (place : Place) (filter : Filter) : Display where
  filter
  console := .ofText true options.threadInfo options.fileLine
  file := some (place, .ofText true true true)

/-- The looks of what a display writes to the file at a place, if it does. -/
def looksAt? (display : Display) (place : Place) : Option Looks :=
  (display.file.filter (·.1 = place)).map (·.2)

end Display

/-- A request to show the log. -/
inductive Installation where
  | console (options : Options)
  /-- Shows the log on the console and in the file that a path leads to. -/
  | file (options : Options) (path : String)

/-- What installations change: the files that are there, and the display. -/
structure Setup where
  around : Surroundings
  display : Option Display
deriving Repr

namespace Setup

/-- Installs a display with the filter of the options, unless one is installed. Without a filter
there is nothing to install. -/
def offer? (setup : Setup) (environment : Option String) (options : Options)
    (display : Filter → Display) : Option Setup :=
  match setup.display with
  | some _ => some setup
  | none => (options.filter? environment).map fun filter =>
    { setup with display := some (display filter) }

/-- Carries out a request; there is no result where the program breaks off. A file that cannot be
opened is an error even if a display is installed already, and one that can be opened is there from
then on. -/
def install (environment : Option String) (setup : Setup) :
    Installation → Option (Except OpenError Unit) × Setup
  | .console options =>
    match setup.offer? environment options (.onConsole options) with
    | some installed => (some (.ok ()), installed)
    | none => (none, setup)
  | .file options path =>
    match setup.around.openFile path with
    | .error cause => (some (.error cause), setup)
    | .ok place =>
      let opened := { setup with around := setup.around.withFile place }
      match opened.offer? environment options (.withFile options place) with
      | some installed => (some (.ok ()), installed)
      | none => (none, opened)

/-- Carries out requests in order; there are no results if the program breaks off at one. -/
def installAll (environment : Option String) :
    Setup → List Installation → Option (List (Except OpenError Unit)) × Setup
  | setup, [] => (some [], setup)
  | setup, installation :: rest =>
    match setup.install environment installation with
    | (none, setup) => (none, setup)
    | (some result, setup) =>
      let (results, setup) := installAll environment setup rest
      (results.map (result :: ·), setup)

end Setup

/-- What an output shows: the events, and its looks if there are any. -/
structure Shown where
  events : List (Level × String)
  looks : Option Looks
deriving Repr

/-- The events that a display lets through to one of its outputs. -/
def shownBy (display : Option Display) (output : Display → Option Looks)
    (events : List (Level × String)) : Shown :=
  match display with
  | none => { events := [], looks := none }
  | some display =>
    match output display with
    | none => { events := [], looks := none }
    | some looks =>
      let events := events.filter fun (level, target) => display.filter.admits target level
      { events, looks := if events.isEmpty then none else some looks }

end Logging

end Mailroom
