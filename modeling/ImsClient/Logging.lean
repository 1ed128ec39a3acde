import ImsClient.Error
import ImsClient.Text.Ascii
import ImsClient.Text.Blank

/-!
# Logging

The level and the form in which a client logs, and the filter directive that sets
the level for this client alone.
-/

namespace ImsClient

inductive LogLevel where
  | error
  | warn
  | info
  | debug
  | trace
deriving DecidableEq, Repr, Inhabited

namespace LogLevel

/-- The levels from the fewest events to the most; the place in this list is a level's number. -/
def all : List LogLevel := [error, warn, info, debug, trace]

def name : LogLevel → String
  | error => "error"
  | warn => "warn"
  | info => "info"
  | debug => "debug"
  | trace => "trace"

/-- The level of a text: its name in any case, or its number from one on. -/
def ofText? (text : String) : Option LogLevel :=
  let text := Text.trim text
  match Text.signedDecimal? text.toList with
  | some n => if n = 0 then none else all[n - 1]?
  | none => all.find? fun level => Text.alike level.name text

/-- The level of a text, or an error that shows the text. -/
def ofText (text : String) : Except Error LogLevel :=
  match ofText? text with
  | some level => .ok level
  | none => .error (.config ("Invalid log level: " ++ text))

end LogLevel

/-- How a client logs. -/
structure Logging where
  level : LogLevel := .info
  json : Bool := false
  /-- Whether events name the place in the program that they come from. -/
  fileInfo : Bool := false
  /-- Whether the start and end of longer work are logged. -/
  spans : Bool := false
deriving DecidableEq, Repr, Inhabited

namespace Logging

/-- The directive that sets the level for this client's events. -/
def directive (logging : Logging) : String := "ims_core=" ++ logging.level.name

/-- What comes of installing a log subscriber in a process that has one: there is one at most. -/
def alreadyInstalled : Error :=
  .config "Failed to install logger: a global default trace dispatcher has already been set"

end Logging

end ImsClient
