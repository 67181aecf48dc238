import TickWire.Live.Error

/-!
# Errors of the command line

Why arguments do not describe a command, and why a command fails.
-/

namespace TickWire

/-- Why arguments do not describe a command. -/
inductive CommandLineFault
  | helpWanted
  | versionWanted
  /-- No command and no option was given. -/
  | nothingGiven
  | unknownCommand
  | unknownArgument
  /-- An argument that the command needs was not given. -/
  | missingArgument
  /-- An option was given without its value, or with an empty path. -/
  | missingValue
  /-- A value has no meaning for its option. -/
  | invalidValue
  /-- A value was given to an option that takes none. -/
  | unexpectedValue
  /-- An option was given twice, or together with one that excludes it. -/
  | conflict
  deriving DecidableEq, Repr

namespace CommandLineFault

/-- The name of the family that a fault belongs to. -/
def kind : CommandLineFault → String
  | helpWanted => "DisplayHelp"
  | versionWanted => "DisplayVersion"
  | nothingGiven => "DisplayHelpOnMissingArgumentOrSubcommand"
  | unknownCommand => "InvalidSubcommand"
  | unknownArgument => "UnknownArgument"
  | missingArgument => "MissingRequiredArgument"
  | missingValue => "InvalidValue"
  | invalidValue => "ValueValidation"
  | unexpectedValue => "TooManyValues"
  | conflict => "ArgumentConflict"

end CommandLineFault

/-- The address of a gateway that has no meaning. -/
inductive GatewayFault
  | invalidPort (text : String)
  | missingHost (text : String)
  deriving DecidableEq, Repr

def GatewayFault.message : GatewayFault → String
  | .invalidPort text => s!"invalid port in '{text}'"
  | .missingHost text => s!"missing host in '{text}'"

/-- Why a command fails. -/
inductive CommandError
  | format (error : Error)
  | live (error : LiveError)
  | outputExists
  | outputUnavailable (path : String)
  | inputUnavailable (path : String)
  deriving DecidableEq, Repr

namespace CommandError

/-- What is said of an error. -/
def message : CommandError → String
  | format error => error.message
  | live error => error.message
  | outputExists =>
      "Output file exists. Pass --force flag to overwrite the existing file."
  | outputUnavailable path => s!"Unable to open output file '{path}'"
  | inputUnavailable path => s!"opening file to decode '{path}'"

/-- Whether the reader of the output went away, which is no failure of a command. -/
def isBrokenPipe : CommandError → Bool
  | format (.io .brokenPipe _) => true
  | _ => false

end CommandError

end TickWire
