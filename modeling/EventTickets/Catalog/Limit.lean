/-!
# Limits

Callers give limits as any integer: one that is not positive means no limit, and a large one counts
as the largest that a store keeps.
-/

namespace EventTickets

namespace Limit

/-- The largest limit a store keeps, that of 32-bit signed columns. -/
def largest : UInt32 := 2147483647

def ofInput (raw : Option Int64) : Option UInt32 :=
  match raw with
  | some n =>
    if n.toInt ≤ 0 then none else if largest.toNat < n.toInt then some largest else
      some (UInt32.ofNat n.toInt.toNat)
  | none => none

end Limit

inductive LimitUpdate where
  | keep
  | clear
  | set (limit : UInt32)
  deriving DecidableEq

namespace LimitUpdate

/-- No limit given keeps the limit there is; one that is not positive removes it. -/
def ofInput : Option Int64 → LimitUpdate
  | none => .keep
  | raw =>
    match Limit.ofInput raw with
    | some limit => .set limit
    | none => .clear

def apply (update : LimitUpdate) (current : Option UInt32) : Option UInt32 :=
  match update with
  | .keep => current
  | .clear => none
  | .set limit => some limit

end LimitUpdate

end EventTickets
