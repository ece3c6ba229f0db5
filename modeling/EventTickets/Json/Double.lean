import EventTickets.Json.Source

/-!
# Decimals in the range of a double

A written decimal is read as its leading digits, as many as 64 bits hold, times a power of ten. Both
factors are doubles on their own, rounded to 53 bits, and only a product that rounds to infinity is
out of range. So whether a decimal near the largest double is in range may depend on how it is
written.
-/

namespace EventTickets

namespace Json.Double

def appendDigits (n : Nat) : Bytes → Nat × Nat
  | [] => (n, 0)
  | b :: rest =>
    let next := n * 10 + (b.toNat - 0x30)
    if next ≤ 0xFFFFFFFFFFFFFFFF then appendDigits next rest else (n, rest.length + 1)

/-- The leading digits of a written decimal as one number, and the power of ten to scale it by.
Whole digits left over count into the power; digits of the fraction left over do not matter. -/
def scaledDigits (text : Bytes) : Nat × Int :=
  let unsigned := text.dropWhile (· == 0x2D)
  let mantissa := unsigned.takeWhile fun b => b != 0x65 && b != 0x45
  let exponent := unsigned.dropWhile fun b => b != 0x65 && b != 0x45
  let fraction := (mantissa.dropWhile (· != 0x2E)).drop 1
  let (whole, wholeLeft) := appendDigits 0 (mantissa.takeWhile (· != 0x2E))
  let (digits, fractionLeft) := appendDigits whole fraction
  let power : Int :=
    match exponent with
    | _ :: 0x2D :: e => -(JsonSource.digitsValue e : Int)
    | _ :: 0x2B :: e => JsonSource.digitsValue e
    | _ :: e => JsonSource.digitsValue e
    | [] => 0
  (digits, power + wholeLeft - (fraction.length - fractionLeft : Nat))

/-- The nearest number of 53 significant bits; of two, the one that is even in its last bit. -/
def nearest (n : Nat) : Nat :=
  let dropped := n.log2 - 52
  let kept := n >>> dropped
  let rest := n - kept <<< dropped
  let unit := 1 <<< dropped
  if unit < 2 * rest ∨ (unit = 2 * rest ∧ kept % 2 = 1) then
    (kept + 1) <<< dropped else kept <<< dropped

def fits (text : Bytes) : Bool :=
  let (digits, power) := scaledDigits text
  if digits = 0 ∨ power ≤ 0 then true
  else if 308 < power then false
  else nearest digits * nearest (Nat.pow 10 power.toNat) < Nat.pow 2 1024 - Nat.pow 2 970

end Json.Double

end EventTickets
