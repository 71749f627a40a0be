import CallDispatch.Text.Case
import CallDispatch.Text.Decimal

/-!
# Logging settings

What is logged and how is settled here. Installing what writes the log is not part of it.
-/

namespace CallDispatch

open Text

/-- How much is logged. -/
inductive LogLevel
  | error
  | warn
  | info
  | debug
  | trace
deriving DecidableEq

namespace LogLevel

/-- The levels, from the least to the most that is logged. -/
def all : List LogLevel := [error, warn, info, debug, trace]

/-- The name of a level. -/
def name : LogLevel → String
  | error => "ERROR"
  | warn => "WARN"
  | info => "INFO"
  | debug => "DEBUG"
  | trace => "TRACE"

/-- Reads a level: its name in any letter case, or its number from 1 on. -/
def parse (text : String) : Option LogLevel :=
  match readUnsigned max64 text.toList with
  | some number => if number = 0 then none else all[number - 1]?
  | none => all.find? (·.name == upper text)

/-- The wording of the error for a text that is no level. -/
def invalid (text : String) : String :=
  "Invalid log level: " ++ text

end LogLevel

/-- How a process that dispatches calls logs. -/
structure LogSettings where
  level : LogLevel := .info
  json : Bool := false
  fileInfo : Bool := false
  spans : Bool := false
  appName : String := "rvoip-app-dispatch"
deriving DecidableEq

namespace LogSettings

/-- The wording of the error when the log of a process is set up twice. -/
def alreadyInstalled (settings : LogSettings) : String :=
  "Failed to install logger for " ++ settings.appName ++
    ": a global default trace dispatcher has already been set"

end LogSettings

end CallDispatch
