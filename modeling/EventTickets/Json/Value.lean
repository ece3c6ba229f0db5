import EventTickets.Text.Hex

/-!
# JSON values

Integers are those of 64 bits, signed or not; any other number keeps the text it was written in. The
compact form has no blanks and escapes quotes, backslashes and control characters only.
-/

namespace EventTickets

inductive Json where
  | null
  | bool (value : Bool)
  | int (value : Int)
  | decimal (text : String)
  | str (value : String)
  | arr (items : List Json)
  | obj (fields : List (String × Json))
  deriving Inhabited

abbrev Meta := List (String × Json)

namespace Json

/-- Puts a field in its place by name, instead of an earlier one of that name. -/
def insertField (name : String) (value : Json) : Meta → Meta
  | [] => [(name, value)]
  | (n, v) :: rest =>
    if name < n then (name, value) :: (n, v) :: rest
    else if name = n then (name, value) :: rest
    else (n, v) :: insertField name value rest

def field? (name : String) : Json → Option Json
  | .obj fields => fields.lookup name
  | _ => none

def escapeChar (c : Char) : List Char :=
  if c = '"' then ['\\', '"']
  else if c = '\\' then ['\\', '\\']
  else if c.toNat = 8 then ['\\', 'b']
  else if c.toNat = 9 then ['\\', 't']
  else if c.toNat = 10 then ['\\', 'n']
  else if c.toNat = 12 then ['\\', 'f']
  else if c.toNat = 13 then ['\\', 'r']
  else if c.toNat < 32 then ['\\', 'u'] ++ Text.hexFixed 4 c.toNat
  else [c]

def strText (s : String) : String := String.ofList ('"' :: s.toList.flatMap escapeChar ++ ['"'])

mutual

def compact : Json → String
  | .null => "null"
  | .bool true => "true"
  | .bool false => "false"
  | .int n => toString n
  | .decimal text => text
  | .str s => strText s
  | .arr items => "[" ++ ",".intercalate (compactItems items) ++ "]"
  | .obj fields => "\x7b" ++ ",".intercalate (compactFields fields) ++ "\x7d"

def compactItems : List Json → List String
  | [] => []
  | j :: js => compact j :: compactItems js

def compactFields : List (String × Json) → List String
  | [] => []
  | (name, j) :: rest => (strText name ++ ":" ++ compact j) :: compactFields rest

end

def asciiOnly (text : String) : String :=
  String.ofList <| text.toList.flatMap fun c =>
    if c.toNat < 128 then [c]
    else if c.toNat < 0x10000 then ['\\', 'u'] ++ Text.hexFixed 4 c.toNat
    else
      let above := c.toNat - 0x10000
      ['\\', 'u'] ++ Text.hexFixed 4 (0xD800 + above / 1024) ++ ['\\', 'u'] ++
        Text.hexFixed 4 (0xDC00 + above % 1024)

end Json

end EventTickets
