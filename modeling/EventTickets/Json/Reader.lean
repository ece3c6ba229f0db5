import EventTickets.Json.Double
import EventTickets.Json.Value

/-!
# Reading JSON values

A text has a value if all its strings decode, it nests less than 128 deep and no number is too large
for a double. Of fields with one name the last counts, and fields are kept in the order of their
names.
-/

namespace EventTickets

namespace Json

def decimal? (text : Bytes) : Option Json :=
  if Double.fits text then (JsonSource.ofUtf8? text).map .decimal else none

def integer? (negative : Bool) (magnitude : Nat) : Option Json :=
  if negative then
    if magnitude = 0 ∨ 0x8000000000000000 < magnitude then
      decimal? ("-" ++ toString magnitude).toUTF8.toList
    else some (.int (-(magnitude : Int)))
  else if magnitude ≤ 0xFFFFFFFFFFFFFFFF then some (.int magnitude)
  else decimal? (toString magnitude).toUTF8.toList

mutual

def ofSource? (depth : Nat) : JsonSource → Option Json
  | .null => some .null
  | .bool b => some (.bool b)
  | .integer negative magnitude => integer? negative magnitude
  | .decimal text => decimal? text
  | .str content => (JsonSource.text? content).map .str
  | .arr js => if depth ≤ 1 then none else (ofSources? (depth - 1) js).map .arr
  | .obj members => if depth ≤ 1 then none else (ofMembers? (depth - 1) [] members).map .obj

def ofSources? (depth : Nat) : List JsonSource → Option (List Json)
  | [] => some []
  | j :: js => do return (← ofSource? depth j) :: (← ofSources? depth js)

def ofMembers? (depth : Nat) (read : Meta) : List (Bytes × JsonSource) → Option Meta
  | [] => some read
  | (name, j) :: rest => do
    let name ← JsonSource.text? name
    let j ← ofSource? depth j
    ofMembers? depth (insertField name j read) rest

end

def parse? (text : String) : Option Json :=
  (JsonSource.read text.toUTF8.toList).bind (ofSource? 128)

end Json

end EventTickets
