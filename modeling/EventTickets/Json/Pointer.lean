import EventTickets.Json.Value
import EventTickets.Text.Integer

/-!
# Pointers into JSON values

A pointer is a sequence of steps with a slash before each: the name of a field, or the position of
an item without leading zeros. In a step `~1` stands for a slash and `~0` for a tilde. A reference
is a text of a dollar sign, a number and a pointer; it stands for the part that the pointer finds in
the value of that number, or for null.
-/

namespace EventTickets

namespace Json

def splitAtSlashes : List Char → List (List Char)
  | [] => [[]]
  | c :: cs =>
    if c = '/' then [] :: splitAtSlashes cs
    else
      match splitAtSlashes cs with
      | part :: parts => (c :: part) :: parts
      | [] => [[c]]

def unescapeStep : List Char → List Char
  | '~' :: '1' :: cs => '/' :: unescapeStep cs
  | '~' :: '0' :: cs => '~' :: unescapeStep cs
  | c :: cs => c :: unescapeStep cs
  | [] => []

def pointerSteps (pointer : List Char) : List String :=
  ((splitAtSlashes pointer).drop 1).map fun step => String.ofList (unescapeStep step)

def number? (digits : List Char) : Option Nat :=
  if digits.isEmpty then none else digits.foldlM (fun n c => (Text.digit? c).map (n * 10 + ·)) 0

def position? (step : String) : Option Nat :=
  match step.toList with
  | ['0'] => some 0
  | '0' :: _ => none
  | digits => number? digits

def follow? : List String → Json → Option Json
  | [], j => some j
  | step :: steps, .obj fields => (fields.lookup step).bind (follow? steps)
  | step :: steps, .arr items => ((position? step).bind (items[·]?)).bind (follow? steps)
  | _, _ => none

def reference? (text : String) : Option (Nat × List Char) :=
  match text.toList with
  | '$' :: cs =>
    let isDigit (c : Char) : Bool := (Text.digit? c).isSome
    match number? (cs.takeWhile isDigit), cs.dropWhile isDigit with
    | some n, '/' :: rest => some (n, '/' :: rest)
    | _, _ => none
  | _ => none

def referred (values : List Json) (text : String) : Json :=
  match reference? text with
  | some (n, pointer) => (values[n]?.bind (follow? (pointerSteps pointer))).getD .null
  | none => .str text

mutual

def resolve (values : List Json) : Json → Json
  | .str text => referred values text
  | .arr items => .arr (resolveItems values items)
  | .obj fields => .obj (resolveFields values fields)
  | j => j

def resolveItems (values : List Json) : List Json → List Json
  | [] => []
  | j :: js => resolve values j :: resolveItems values js

def resolveFields (values : List Json) : List (String × Json) → List (String × Json)
  | [] => []
  | (name, j) :: rest => (name, resolve values j) :: resolveFields values rest

end

end Json

end EventTickets
