/-!
# Integers written in decimal

An optional sign and then digits, read from left to right: a character that is no digit and a value
that leaves the range are both reported where they are met, so the first one decides. A minus sign
is a sign only where the range reaches below zero.
-/

namespace EventTickets.Text

inductive IntegerError where
  | empty
  | invalidDigit
  | aboveRange
  | belowRange
  deriving DecidableEq

namespace IntegerError

def message : IntegerError → String
  | .empty => "cannot parse integer from empty string"
  | .invalidDigit => "invalid digit found in string"
  | .aboveRange => "number too large to fit in target type"
  | .belowRange => "number too small to fit in target type"

end IntegerError

def digit? (c : Char) : Option Nat :=
  if '0' ≤ c ∧ c ≤ '9' then some (c.toNat - '0'.toNat) else none

def readDigits (bound : Nat) (overflow : IntegerError) (acc : Nat) :
    List Char → Except IntegerError Nat
  | [] => .ok acc
  | c :: cs =>
    match digit? c with
    | none => .error .invalidDigit
    | some d =>
      if acc * 10 + d ≤ bound then readDigits bound overflow (acc * 10 + d) cs else .error overflow

/-- Reads an integer of the range from `-below` to `above`. -/
def readInteger (below above : Nat) : List Char → Except IntegerError Int
  | [] => .error .empty
  | ['+'] => .error .invalidDigit
  | ['-'] => .error .invalidDigit
  | '+' :: cs => (readDigits above .aboveRange 0 cs).map Int.ofNat
  | '-' :: cs =>
    if below = 0 then .error .invalidDigit
    else (readDigits below .belowRange 0 cs).map fun n => -(n : Int)
  | cs => (readDigits above .aboveRange 0 cs).map Int.ofNat

def int64 (s : String) : Except IntegerError Int64 :=
  (readInteger 0x8000000000000000 0x7FFFFFFFFFFFFFFF s.toList).map Int64.ofInt

def uint32 (s : String) : Except IntegerError UInt32 :=
  (readInteger 0 0xFFFFFFFF s.toList).map fun n => UInt32.ofNat n.toNat

def uint64 (s : String) : Except IntegerError UInt64 :=
  (readInteger 0 0xFFFFFFFFFFFFFFFF s.toList).map fun n => UInt64.ofNat n.toNat

end EventTickets.Text
