import EventTickets.Json.Value

/-!
# Records as JSON

A record is written as an object with one field per component. It is read from an object, where
unknown fields are passed over, or from an array with the components in the order they are written
in. A component is required, optional (absent and null mean none) or has a default, which null does
not stand for. The arguments of a call are looser: there a null argument is one that was not given.
-/

namespace EventTickets

class Encode (α : Type) where
  encode : α → Json

class Decode (α : Type) where
  decode? : Json → Option α

export Encode (encode)
export Decode (decode?)

instance : Encode Json := ⟨id⟩
instance : Decode Json := ⟨some⟩

instance : Encode Unit := ⟨fun _ => .null⟩

instance : Encode Bool := ⟨.bool⟩

instance : Decode Bool where
  decode?
    | .bool b => some b
    | _ => none

instance : Encode String := ⟨.str⟩

instance : Decode String where
  decode?
    | .str s => some s
    | _ => none

/-- The name of an alternative that carries nothing: a text, or an object with a null under the name
alone. -/
def alternative? : Json → Option String
  | .str name => some name
  | .obj [(name, .null)] => some name
  | _ => none

def integerWithin? (low high : Int) : Json → Option Int
  | .int n => if low ≤ n ∧ n ≤ high then some n else none
  | _ => none

instance : Encode Nat := ⟨fun n => .int n⟩

instance : Encode Int64 := ⟨fun n => .int n.toInt⟩
instance : Decode Int64 :=
  ⟨fun j => (integerWithin? (-0x8000000000000000) 0x7FFFFFFFFFFFFFFF j).map Int64.ofInt⟩

instance : Encode UInt32 := ⟨fun n => .int n.toNat⟩
instance : Decode UInt32 := ⟨fun j => (integerWithin? 0 0xFFFFFFFF j).map fun n =>
    UInt32.ofNat n.toNat⟩

instance : Encode UInt64 := ⟨fun n => .int n.toNat⟩
instance : Decode UInt64 := ⟨fun j => (integerWithin? 0 0xFFFFFFFFFFFFFFFF j).map fun n =>
    UInt64.ofNat n.toNat⟩

instance : Encode Meta := ⟨.obj⟩

instance : Decode Meta where
  decode?
    | .obj fields => some fields
    | _ => none

instance {α : Type} [Encode α] : Encode (Option α) where
  encode
    | some a => encode a
    | none => .null

instance {α : Type} [Decode α] : Decode (Option α) where
  decode?
    | .null => some none
    | j => (decode? j).map some

instance {α : Type} [Encode α] : Encode (List α) := ⟨fun as => .arr (as.map encode)⟩

instance {α : Type} [Decode α] : Decode (List α) where
  decode?
    | .arr js => js.mapM decode?
    | _ => none

instance {α β : Type} [Encode α] [Encode β] : Encode (α × β) :=
  ⟨fun (a, b) => .arr [encode a, encode b]⟩

structure Components where
  fields : List (String × Json)
  /-- Whether they come from an array, where only components with a default may be left out. -/
  positional : Bool

namespace Components

def of? (names : List String) : Json → Option Components
  | .obj fields => some ⟨fields, false⟩
  | .arr items => if items.length ≤ names.length then some ⟨names.zip items, true⟩ else none
  | _ => none

def required {α : Type} [Decode α] (c : Components) (name : String) : Option α :=
  (c.fields.lookup name).bind decode?

def optional {α : Type} [Decode α] (c : Components) (name : String) : Option (Option α) :=
  match c.fields.lookup name with
  | some j => decode? j
  | none => if c.positional then none else some none

def withDefault {α : Type} [Decode α] (c : Components) (name : String) (absent : α) : Option α :=
  match c.fields.lookup name with
  | some j => decode? j
  | none => some absent

def givenOr {α : Type} [Decode α] (c : Components) (name : String) (otherwise : α) : Option α := do
  return (← c.optional name).getD otherwise

end Components

end EventTickets
