import EventTickets.CommandLine.Parameter
import EventTickets.CommandLine.UsageError
import EventTickets.Text.Cut

/-!
# Arguments of one command

Words are read from left to right. An option may carry its value after an equals sign or find it in
the next word, and a value is looked at only when the next argument begins, so a word that is no
argument at all is reported before the bad value in front of it. After `--` every word is taken by
position.
-/

namespace EventTickets.CommandLine

/-- Values by the names of their parameters; that of a flag is empty. -/
abbrev Arguments := List (String × String)

namespace Arguments

def has (a : Arguments) (name : String) : Bool := (a.lookup name).isSome

def value? {α : Type} (a : Arguments) (name : String) (parse : String → Option α) : Option α :=
  (a.lookup name).bind parse

def value {α : Type} (a : Arguments) (name : String) (parse : String → Option α) :
    Except UsageError α :=
  match a.value? name parse with
  | some v => .ok v
  | none => .error .missingArgument

end Arguments

structure Scan where
  found : Arguments
  /-- The latest argument, with its value if that was read. -/
  pending : Option (Parameter × Option String)
  /-- Parameters whose position is still to come. -/
  positions : List Parameter

namespace Scan

def add (scan : Scan) (p : Parameter) (value : String) : Except UsageError Scan :=
  if scan.found.has p.name then .error .repeatedArgument
  else if p.accepts value then .ok { scan with found := scan.found ++ [(p.name, value)] }
  else .error .invalidValue

def settle (scan : Scan) : Except UsageError Scan :=
  match scan.pending with
  | none => .ok scan
  | some (_, none) => .error .missingValue
  | some (p, some value) => { scan with pending := none }.add p value

def takePosition (scan : Scan) (word : String) : Except UsageError Scan :=
  match scan.positions with
  | [] => .error .unknownArgument
  | p :: rest => do
    let scan ← scan.settle
    return { scan with pending := some (p, some word), positions := rest }

def takeNamed (parameters : List Parameter) (name : String) (value : Option String) (scan : Scan) :
    Except UsageError Scan :=
  match parameters.find? fun p => p.name == name && p.form != .positional, value with
  | none, value =>
    if name ≠ "help" then .error .unknownArgument
    else if value.isSome then .error .unexpectedValue
    else do
      let _ ← scan.settle
      throw .helpRequested
  | some p, some value => do
    if p.form = .flag then throw .unexpectedValue
    (← scan.settle).add p value
  | some p, none => do
    let scan ← scan.settle
    if p.form = .flag then scan.add p "" else return { scan with pending := some (p, none) }

def splitNamed (rest : List Char) : String × Option String :=
  match Text.cutChars? ['='] rest with
  | some (name, value) => (String.ofList name, some (String.ofList value))
  | none => (String.ofList rest, none)

def takeWord (parameters : List Parameter) (scan : Scan) (word : String) : Except UsageError Scan :=
  match word.toList with
  | '-' :: '-' :: rest =>
    let (name, value) := splitNamed rest
    scan.takeNamed parameters name value
  | '-' :: 'h' :: _ => do
    let _ ← scan.settle
    throw .helpRequested
  | '-' :: _ :: _ => .error .unknownArgument
  | _ =>
    match scan.pending with
    | some (p, none) => .ok { scan with pending := some (p, some word) }
    | _ => scan.takePosition word

def takeWords (parameters : List Parameter) : List String → Scan → Except UsageError Scan
  | [], scan => scan.settle
  | word :: rest, scan =>
    if word = "--" then do (← rest.foldlM takePosition scan).settle
    else do takeWords parameters rest (← scan.takeWord parameters word)

end Scan

namespace Arguments

def fillIn (vars : List (String × String)) (a : Arguments) (p : Parameter) :
    Except UsageError Arguments :=
  if a.has p.name then .ok a
  else
    match p.standIn.bind fun name => vars.lookup name with
    | none => .ok a
    | some value => if p.accepts value then .ok (a ++ [(p.name, value)]) else .error .invalidValue

def read (parameters : List Parameter) (vars : List (String × String)) (words : List String) :
    Except UsageError Arguments := do
  let start : Scan := ⟨[], none, parameters.filter (·.form == .positional)⟩
  let scan ← Scan.takeWords parameters words start
  let found ← parameters.foldlM (fillIn vars) scan.found
  if parameters.any fun p => p.isRequired && !found.has p.name then throw .missingArgument
  return found

end Arguments

end EventTickets.CommandLine
