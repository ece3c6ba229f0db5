import EventTickets.Sql.Connection

/-!
# Scripted connections

A connection that answers from a script: replies for the statements with parameters, one after the
other, and errors for the control statements, each for the first of its kind. It keeps the
statements it was sent. Past the end of the script nothing is found and every write concerns one
row.
-/

namespace EventTickets.Sql

structure Script where
  replies : List Answer
  controlErrors : List (String × String)
  sent : List Statement

namespace Script

def start (replies : List Answer) (controlErrors : List (String × String)) : Script :=
  ⟨replies, controlErrors, []⟩

def answerControl (word : String) (script : Script) : Answer × Script :=
  match script.controlErrors.lookup word with
  | some message =>
    (.error ⟨message, "XX000"⟩,
      { script with controlErrors := script.controlErrors.filter (·.1 ≠ word) })
  | none => (.ok ⟨[], 0⟩, script)

def answerData (s : Statement) (script : Script) : Answer × Script :=
  match script.replies with
  | reply :: rest => (reply, { script with replies := rest })
  | [] => (.ok ⟨[], if s.asksForRows then 0 else 1⟩, script)

def answer (s : Statement) : StateM Script Answer := fun script =>
  let script := { script with sent := script.sent ++ [s] }
  match s.control? with
  | some word => script.answerControl word
  | none => script.answerData s

def sentJson (shown : Cell → Cell) (s : Statement) : Json :=
  .obj (("q", .str (Text.oneLine s.text)) ::
    if s.control?.isSome then [] else [("p", .arr (s.params.map fun cell => (shown cell).toJson))])

def report (shown : Cell → Cell) (script : Script) : List (String × Json) :=
  ("sql", .arr (script.sent.map (sentJson shown))) ::
    if script.replies.isEmpty then [] else [("left", .int script.replies.length)]

def replyOfJson? (j : Json) : Option Answer :=
  match j.field? "error", j.field? "rows", j.field? "n" with
  | some error, _, _ => do
    let message : String ← decode? error
    let code : Option String ← decode? ((j.field? "code").getD .null)
    return .error ⟨message, code.getD "XX000"⟩
  | none, some (.arr rows), _ => do
    let rows ← rowsOfJson? rows
    return .ok ⟨rows, rows.length⟩
  | none, none, some n => do
    let n : UInt64 ← decode? n
    return .ok ⟨[], n.toNat⟩
  | _, _, _ => none

def controlErrorsOfJson? : Json → Option (List (String × String))
  | .obj fields => fields.mapM fun (word, message) => (decode? message).map (word, ·)
  | _ => none

end Script

end EventTickets.Sql
