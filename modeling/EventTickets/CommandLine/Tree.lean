import EventTickets.CommandLine.Arguments

/-!
# Trees of commands

The first words choose a command from groups within groups, and the rest are its arguments. Every
group answers to `help`, which may be followed by the path to a command.
-/

namespace EventTickets.CommandLine

inductive CommandTree (α : Type) where
  | command (parameters : List Parameter) (build : Arguments → Except UsageError α)
  | group (members : List (String × CommandTree α))

namespace CommandTree

variable {α : Type}

def member? (name : String) : CommandTree α → Option (CommandTree α)
  | .command _ _ => none
  | .group members => members.lookup name

def isGroup : CommandTree α → Bool
  | .command _ _ => false
  | .group _ => true

def help : CommandTree α → List String → UsageError
  | _, [] => .helpRequested
  | tree, word :: rest =>
    match tree.member? word with
    | some member => member.help rest
    | none =>
      if word = "help" ∧ tree.isGroup ∧ rest.isEmpty then .helpRequested else .unknownSubcommand

def strayWord (word : String) : UsageError :=
  match word.toList with
  | '-' :: '-' :: rest =>
    match Scan.splitNamed rest with
    | ("help", none) => .helpRequested
    | ("help", some _) => .unexpectedValue
    | _ => .unknownArgument
  | '-' :: 'h' :: _ => .helpRequested
  | '-' :: _ :: _ => .unknownArgument
  | _ => .unknownSubcommand

def strayAfterDashes (members : List (String × CommandTree α)) : List String → UsageError
  | [] => .missingSubcommand
  | word :: _ =>
    if (members.lookup word).isSome || word = "help" then .unknownArgument else .unknownSubcommand

def parse (vars : List (String × String)) : CommandTree α → List String → Except UsageError α
  | .command parameters build, words => do build (← Arguments.read parameters vars words)
  | .group _, [] => .error .missingSubcommand
  | .group members, word :: rest =>
    match members.lookup word with
    | some member => member.parse vars rest
    | none =>
      .error <|
        if word = "--" then strayAfterDashes members rest
        else if word = "help" then help (.group members) rest
        else strayWord word

end CommandTree

end EventTickets.CommandLine
