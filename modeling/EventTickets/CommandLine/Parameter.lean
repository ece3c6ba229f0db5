/-!
# Parameters

A command takes arguments by position, options with a value and flags without one. Options and flags
stand after two hyphens and a name. A variable may stand in for an option that is not given.
-/

namespace EventTickets.CommandLine

inductive Form where
  | positional
  | option
  | flag
  deriving DecidableEq

structure Parameter where
  name : String
  form : Form
  accepts : String → Bool
  isRequired : Bool
  standIn : Option String

namespace Parameter

variable {α : Type}

def argument (name : String) (parse : String → Option α) : Parameter :=
  ⟨name, .positional, fun text => (parse text).isSome, true, none⟩

def option (name : String) (parse : String → Option α) : Parameter :=
  ⟨name, .option, fun text => (parse text).isSome, false, none⟩

def flag (name : String) : Parameter := ⟨name, .flag, fun _ => true, false, none⟩

def required (p : Parameter) : Parameter := { p with isRequired := true }

def orVariable (p : Parameter) (name : String) : Parameter := { p with standIn := some name }

end Parameter

end EventTickets.CommandLine
