/-!
# JSON texts, split along their grammar

A text is a list of bytes. Splitting it checks the grammar alone: a string keeps the bytes between
its quotes, whatever they decode to, so parts that nobody asks for need not decode. Reading a string
replaces its escapes and then takes the bytes as UTF-8.
-/

namespace EventTickets

abbrev Bytes := List UInt8

inductive JsonSource where
  | null
  | bool (value : Bool)
  /-- Digits without fraction or exponent; a minus sign may stand before zero. -/
  | integer (negative : Bool) (magnitude : Nat)
  | decimal (text : Bytes)
  | str (content : Bytes)
  | arr (items : List JsonSource)
  | obj (members : List (Bytes × JsonSource))
  deriving Inhabited

namespace JsonSource

def isBlankByte (b : UInt8) : Bool := b == 0x20 || b == 0x09 || b == 0x0A || b == 0x0D

def skipBlanks (s : Bytes) : Bytes := s.dropWhile isBlankByte

def isDigitByte (b : UInt8) : Bool := 0x30 ≤ b && b ≤ 0x39

def hexByte? (b : UInt8) : Option Nat :=
  if 0x30 ≤ b ∧ b ≤ 0x39 then some (b.toNat - 0x30)
  else if 0x61 ≤ b ∧ b ≤ 0x66 then some (b.toNat - 0x61 + 10)
  else if 0x41 ≤ b ∧ b ≤ 0x46 then some (b.toNat - 0x41 + 10)
  else none

def simpleEscape? (b : UInt8) : Option UInt8 :=
  if b = 0x22 ∨ b = 0x5C ∨ b = 0x2F then some b
  else if b = 0x62 then some 0x08
  else if b = 0x66 then some 0x0C
  else if b = 0x6E then some 0x0A
  else if b = 0x72 then some 0x0D
  else if b = 0x74 then some 0x09
  else none

def hexUnit? (a b c d : UInt8) : Option Nat := do
  return (((← hexByte? a) * 16 + (← hexByte? b)) * 16 + (← hexByte? c)) * 16 + (← hexByte? d)

def stringContent : Bytes → Option (Bytes × Bytes)
  | [] => none
  | 0x22 :: rest => some ([], rest)
  | 0x5C :: 0x75 :: a :: b :: c :: d :: rest =>
    match hexUnit? a b c d with
    | some _ => (stringContent rest).map fun (s, r) => (0x5C :: 0x75 :: a :: b :: c :: d :: s, r)
    | none => none
  | 0x5C :: e :: rest =>
    match simpleEscape? e with
    | some _ => (stringContent rest).map fun (s, r) => (0x5C :: e :: s, r)
    | none => none
  | b :: rest => if b < 0x20 ∨ b = 0x5C then none else (stringContent rest).map fun (s, r) =>
    (b :: s, r)

def digitsValue (digits : Bytes) : Nat := digits.foldl (fun n b => n * 10 + (b.toNat - 0x30)) 0

def wholePart (s : Bytes) : Option (Bytes × Bytes) :=
  let digits := s.takeWhile isDigitByte
  match digits with
  | [] => none
  | 0x30 :: _ :: _ => none
  | _ => some (digits, s.dropWhile isDigitByte)

def someDigits (s : Bytes) : Option (Bytes × Bytes) :=
  let digits := s.takeWhile isDigitByte
  if digits.isEmpty then none else some (digits, s.dropWhile isDigitByte)

def fractionPart : Bytes → Option (Bytes × Bytes)
  | 0x2E :: rest => (someDigits rest).map fun (d, r) => (0x2E :: d, r)
  | s => some ([], s)

def exponentPart : Bytes → Option (Bytes × Bytes)
  | e :: rest =>
    if e = 0x65 ∨ e = 0x45 then
      match rest with
      | sign :: rest' =>
        if sign = 0x2B ∨ sign = 0x2D then (someDigits rest').map fun (d, r) => (e :: sign :: d, r)
        else (someDigits rest).map fun (d, r) => (e :: d, r)
      | [] => none
    else some ([], e :: rest)
  | [] => some ([], [])

def unsignedNumber (negative : Bool) (s : Bytes) : Option (JsonSource × Bytes) := do
  let (whole, s) ← wholePart s
  let (fraction, s) ← fractionPart s
  let (exponent, s) ← exponentPart s
  if fraction.isEmpty && exponent.isEmpty then return (.integer negative (digitsValue whole), s)
  else return (.decimal ((if negative then [0x2D] else []) ++ whole ++ fraction ++ exponent), s)

def keyword (word : Bytes) (v : JsonSource) (s : Bytes) : Option (JsonSource × Bytes) :=
  if word.isPrefixOf s then some (v, s.drop word.length) else none

mutual

/-- Reads one value; `fuel` bounds the depth of the calls. -/
def value : Nat → Bytes → Option (JsonSource × Bytes)
  | 0, _ => none
  | fuel + 1, s =>
    match skipBlanks s with
    | 0x22 :: rest => (stringContent rest).map fun (c, r) => (.str c, r)
    | 0x7B :: rest =>
      match skipBlanks rest with
      | 0x7D :: r => some (.obj [], r)
      | r => (members fuel r).map fun (ms, r) => (.obj ms, r)
    | 0x5B :: rest =>
      match skipBlanks rest with
      | 0x5D :: r => some (.arr [], r)
      | r => (items fuel r).map fun (js, r) => (.arr js, r)
    | 0x2D :: rest => unsignedNumber true rest
    | 0x6E :: rest => keyword [0x75, 0x6C, 0x6C] .null rest
    | 0x74 :: rest => keyword [0x72, 0x75, 0x65] (.bool true) rest
    | 0x66 :: rest => keyword [0x61, 0x6C, 0x73, 0x65] (.bool false) rest
    | rest => unsignedNumber false rest

def items : Nat → Bytes → Option (List JsonSource × Bytes)
  | 0, _ => none
  | fuel + 1, s =>
    match value fuel s with
    | none => none
    | some (j, s) =>
      match skipBlanks s with
      | 0x2C :: rest => (items fuel rest).map fun (js, r) => (j :: js, r)
      | 0x5D :: rest => some ([j], rest)
      | _ => none

def members : Nat → Bytes → Option (List (Bytes × JsonSource) × Bytes)
  | 0, _ => none
  | fuel + 1, s =>
    match skipBlanks s with
    | 0x22 :: s =>
      match stringContent s with
      | none => none
      | some (name, s) =>
        match skipBlanks s with
        | 0x3A :: s =>
          match value fuel s with
          | none => none
          | some (j, s) =>
            match skipBlanks s with
            | 0x2C :: rest => (members fuel rest).map fun (ms, r) => ((name, j) :: ms, r)
            | 0x7D :: rest => some ([(name, j)], rest)
            | _ => none
        | _ => none
    | _ => none

end

def read (s : Bytes) : Option JsonSource :=
  match value (2 * s.length + 2) s with
  | some (j, rest) => if (skipBlanks rest).isEmpty then some j else none
  | none => none

def utf8 (code : Nat) : Bytes := (String.utf8EncodeChar (Char.ofNat code))

/-- The bytes a string stands for. Surrogate escapes count in pairs only. -/
def unescape : Bytes → Option Bytes
  | [] => some []
  | 0x5C :: 0x75 :: a :: b :: c :: d :: rest =>
    match hexUnit? a b c d with
    | none => none
    | some unit =>
      if 0xDC00 ≤ unit ∧ unit < 0xE000 then none
      else if 0xD800 ≤ unit ∧ unit < 0xDC00 then
        match rest with
        | 0x5C :: 0x75 :: e :: f :: g :: h :: rest' =>
          match hexUnit? e f g h with
          | none => none
          | some low =>
            if 0xDC00 ≤ low ∧ low < 0xE000 then
              (unescape rest').map (utf8 (0x10000 + (unit - 0xD800) * 1024 + (low - 0xDC00)) ++ ·)
            else none
        | _ => none
      else (unescape rest).map (utf8 unit ++ ·)
  | 0x5C :: e :: rest =>
    match simpleEscape? e with
    | some b => (unescape rest).map (b :: ·)
    | none => none
  | b :: rest => (unescape rest).map (b :: ·)

def ofUtf8? (bytes : Bytes) : Option String := String.fromUTF8? ⟨bytes.toArray⟩

def text? (content : Bytes) : Option String := (unescape content).bind ofUtf8?

end JsonSource

end EventTickets
