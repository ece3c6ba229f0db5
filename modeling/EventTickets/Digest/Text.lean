import EventTickets.Text.Hex

/-!
# Bytes as text

Lower-case hexadecimal, and base64 with the URL-safe alphabet and no padding. Six bits make a base64
digit; a last group of one or two bytes ends in zero bits. Only such canonical text is read back.
-/

namespace EventTickets.Digest

def hexChars (bytes : List UInt8) : List Char :=
  bytes.flatMap fun b => Text.hexFixed 2 b.toNat

def hex (bytes : List UInt8) : String := String.ofList (hexChars bytes)

namespace Base64Url

def digit (n : Nat) : Char :=
  if n < 26 then Char.ofNat ('A'.toNat + n)
  else if n < 52 then Char.ofNat ('a'.toNat + (n - 26))
  else if n < 62 then Char.ofNat ('0'.toNat + (n - 52))
  else if n = 62 then '-'
  else '_'

def digitValue? (c : Char) : Option Nat :=
  if 'A' ≤ c ∧ c ≤ 'Z' then some (c.toNat - 'A'.toNat)
  else if 'a' ≤ c ∧ c ≤ 'z' then some (c.toNat - 'a'.toNat + 26)
  else if '0' ≤ c ∧ c ≤ '9' then some (c.toNat - '0'.toNat + 52)
  else if c = '-' then some 62
  else if c = '_' then some 63
  else none

def encodeChars : List UInt8 → List Char
  | [] => []
  | [a] => [digit (a.toNat / 4), digit (a.toNat % 4 * 16)]
  | [a, b] =>
    [digit (a.toNat / 4), digit (a.toNat % 4 * 16 + b.toNat / 16), digit (b.toNat % 16 * 4)]
  | a :: b :: c :: rest =>
    digit (a.toNat / 4) :: digit (a.toNat % 4 * 16 + b.toNat / 16) ::
      digit (b.toNat % 16 * 4 + c.toNat / 64) :: digit (c.toNat % 64) :: encodeChars rest

def decodeChars? : List Char → Option (List UInt8)
  | [] => some []
  | [_] => none
  | [p, q] => do
    let a ← digitValue? p
    let b ← digitValue? q
    if b % 16 = 0 then return [UInt8.ofNat (a * 4 + b / 16)] else none
  | [p, q, r] => do
    let a ← digitValue? p
    let b ← digitValue? q
    let c ← digitValue? r
    if c % 4 = 0 then return [UInt8.ofNat (a * 4 + b / 16), UInt8.ofNat (b % 16 * 16 + c / 4)] else
      none
  | p :: q :: r :: s :: rest => do
    let a ← digitValue? p
    let b ← digitValue? q
    let c ← digitValue? r
    let d ← digitValue? s
    let bytes ← decodeChars? rest
    return UInt8.ofNat (a * 4 + b / 16) :: UInt8.ofNat (b % 16 * 16 + c / 4) ::
      UInt8.ofNat (c % 4 * 64 + d) :: bytes

def encode (bytes : List UInt8) : String := String.ofList (encodeChars bytes)

def decode? (s : String) : Option (List UInt8) := decodeChars? s.toList

end Base64Url

end EventTickets.Digest
