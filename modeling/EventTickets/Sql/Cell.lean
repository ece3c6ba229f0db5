import EventTickets.Id

/-!
# Cells

Values of columns and parameters with their column types. A column is read as exactly one type; a
null is read only where there may be none. Times have microseconds: what is finer is cut off toward
the year 2000, from which the database counts.
-/

namespace EventTickets.Sql

open Time (Instant)

inductive Cell where
  | null
  | int8 (value : Int64)
  | int4 (value : Int32)
  | bool (value : Bool)
  | text (value : String)
  | uuid (value : Uuid)
  | timestamp (value : Instant)
  | jsonb (value : Json)
  | texts (values : List String)
  /-- A value of a type that no column of ours has. -/
  | foreign (typeName : String)

namespace Cell

def timeOrigin : Int := 946684800

def microseconds (t : Instant) : Instant :=
  let micros := (((t.seconds - timeOrigin) * 1000000000 + t.nanos).tdiv 1000)
  ⟨micros / 1000000 + timeOrigin, (micros % 1000000).toNat * 1000⟩

def time (t : Instant) : Cell := .timestamp (microseconds t)

def optional {α : Type} (cell : α → Cell) : Option α → Cell
  | some a => cell a
  | none => .null

def toJson : Cell → Json
  | .null => .null
  | .int8 n => .int n.toInt
  | .int4 n => .int n.toInt
  | .bool b => .bool b
  | .text s => .str s
  | .uuid id => .str id.text
  | .timestamp t => .str t.text
  | .jsonb j => j
  | .texts ss => .arr (ss.map .str)
  | .foreign _ => .null

end Cell

class OfCell (α : Type) where
  ofCell? : Cell → Option α

export OfCell (ofCell?)

instance : OfCell Int64 where
  ofCell?
    | .int8 n => some n
    | _ => none

instance : OfCell Int32 where
  ofCell?
    | .int4 n => some n
    | _ => none

instance : OfCell Bool where
  ofCell?
    | .bool b => some b
    | _ => none

instance : OfCell String where
  ofCell?
    | .text s => some s
    | _ => none

instance : OfCell Uuid where
  ofCell?
    | .uuid id => some id
    | _ => none

instance : OfCell Instant where
  ofCell?
    | .timestamp t => some t
    | _ => none

instance : OfCell Json where
  ofCell?
    | .jsonb j => some j
    | _ => none

instance {α : Type} [OfCell α] : OfCell (Option α) where
  ofCell?
    | .null => some none
    | c => (ofCell? c).map some

abbrev Row := List (String × Cell)

/-- The types of our columns, by their names. An identifier is a number where its value is one. -/
inductive ColumnType where
  | int8
  | int4
  | bool
  | text
  | uuid
  | timestamp
  | jsonb
  deriving DecidableEq

namespace ColumnType

def uuidColumns : List String := ["order_id", "product_id", "promo_code_id"]

def int4Columns : List String :=
  ["inventory_limit", "sold_count", "usage_limit", "used_count", "quantity"]

def int8Columns : List String :=
  ["event_id", "user_id", "value", "telegram_id", "purchaser_id", "count"]

def endsWith (name ending : String) : Bool := ending.toList.isSuffixOf name.toList

def ofColumn (name : String) (isNumber : Bool) : ColumnType :=
  if name = "id" then if isNumber then .int8 else .uuid
  else if uuidColumns.contains name then .uuid
  else if int4Columns.contains name then .int4
  else if name = "is_active" then .bool
  else if ["info_json", "meta_json"].contains name then .jsonb
  else if ["active_from", "active_to"].contains name || endsWith name "_at" then .timestamp
  else if int8Columns.contains name || endsWith name "_cents" || endsWith name "_by" then .int8
  else .text

def ofName? (s : String) : Option ColumnType :=
  if s = "int8" then some .int8
  else if s = "int4" then some .int4
  else if s = "bool" then some .bool
  else if s = "text" then some .text
  else if s = "uuid" then some .uuid
  else if s = "timestamptz" then some .timestamp
  else if s = "jsonb" then some .jsonb
  else none

def int32? (j : Json) : Option Int32 :=
  (integerWithin? (-0x80000000) 0x7FFFFFFF j).map Int32.ofInt

def uuid? : Json → Option Uuid
  | .str s => Uuid.ofText? s
  | _ => none

def cell? (type : ColumnType) (j : Json) : Option Cell :=
  match type, j with
  | _, .null => some .null
  | .int8, j => (decode? j).map .int8
  | .int4, j => (int32? j).map .int4
  | .bool, j => (decode? j).map .bool
  | .text, j => (decode? j).map .text
  | .uuid, j => (uuid? j).map .uuid
  | .timestamp, j => (decode? j).map .time
  | .jsonb, j => some (.jsonb j)

end ColumnType

namespace Cell

def isNumber : Json → Bool
  | .int _ => true
  | _ => false

def ofJson? (column : String) (j : Json) : Option Cell :=
  match j.field? "pg", j.field? "v" with
  | some (.str typeName), some value =>
    match ColumnType.ofName? typeName, value with
    | some type, value => type.cell? value
    | none, .null => some .null
    | none, _ => some (.foreign typeName)
  | _, _ => (ColumnType.ofColumn column (isNumber j)).cell? j

end Cell

def rowsOfJson? (rows : List Json) : Option (List Row) :=
  match rows with
  | [] => some []
  | first :: _ =>
    match first with
    | .obj columns =>
      rows.mapM fun row => columns.mapM fun (name, _) =>
        (Cell.ofJson? name ((row.field? name).getD .null)).map (name, ·)
    | _ => none

end EventTickets.Sql
