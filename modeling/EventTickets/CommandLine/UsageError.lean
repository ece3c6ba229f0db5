/-!
# Usage errors

Why a command line cannot be understood. Asking for help is among them, since no command runs then.
-/

namespace EventTickets.CommandLine

inductive UsageError where
  | helpRequested
  | missingSubcommand
  | unknownSubcommand
  | unknownArgument
  | missingArgument
  | missingValue
  | invalidValue
  | unexpectedValue
  | repeatedArgument
  deriving DecidableEq

namespace UsageError

def message : UsageError → String
  | .helpRequested => "see the list of commands"
  | .missingSubcommand => "a command is required"
  | .unknownSubcommand => "unknown command"
  | .unknownArgument => "unknown argument"
  | .missingArgument => "a required argument is missing"
  | .missingValue => "an option has no value"
  | .invalidValue => "invalid value"
  | .unexpectedValue => "a flag takes no value"
  | .repeatedArgument => "an argument is given twice"

def exitCode : UsageError → UInt32
  | .helpRequested => 0
  | _ => 2

end UsageError

end EventTickets.CommandLine
