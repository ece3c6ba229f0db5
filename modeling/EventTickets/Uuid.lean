import EventTickets.Text.Hex

/-!
# UUIDs

128 bits, written as 32 hexadecimal digits in groups of 8, 4, 4, 4 and 12. Reading takes the groups
joined by hyphens, bare, in braces or after `urn:uuid:`, or all digits without hyphens. Letters may
be of either case throughout.
-/

namespace EventTickets

structure Uuid where
  bits : BitVec 128
  deriving DecidableEq

namespace Uuid

def groups : List Nat → List Char → List (List Char)
  | [], cs => [cs]
  | n :: ns, cs => cs.take n :: groups ns (cs.drop n)

def chars (id : Uuid) : List Char :=
  ['-'].intercalate (groups [8, 4, 4, 4] (Text.hexFixed 32 id.bits.toNat))

def text (id : Uuid) : String := String.ofList id.chars

def unhyphenated? (cs : List Char) : Option (List Char) :=
  match groups [8, 1, 4, 1, 4, 1, 4, 1] cs with
  | [a, ['-'], b, ['-'], c, ['-'], d, ['-'], e] =>
    if e.length = 12 then some (a ++ b ++ c ++ d ++ e) else none
  | _ => none

def digits? (cs : List Char) : Option (List Char) :=
  if cs.length = 32 then some cs
  else if cs.length = 36 then unhyphenated? cs
  else if cs.length = 38 then
    if cs.head? = some '\x7b' ∧ cs.getLast? = some '\x7d' then
      unhyphenated? ((cs.drop 1).take 36) else none
  else if (cs.take 9).map Char.toLower = "urn:uuid:".toList then unhyphenated? (cs.drop 9)
  else none

def ofText? (s : String) : Option Uuid :=
  ((digits? s.toList).bind Text.hexNumber?).map fun n => ⟨BitVec.ofNat 128 n⟩

end Uuid

end EventTickets
