import EventTickets.Json.Codec
import EventTickets.Text.Blank

/-!
# Discount types

A percentage of the subtotal or a fixed amount. Any other name is kept, so that a code of that type
can be stored and is refused only when somebody uses it.
-/

namespace EventTickets

inductive DiscountType where
  | percent
  | fixed
  | other (name : String)
  deriving DecidableEq

namespace DiscountType

def name : DiscountType → String
  | .percent => "PERCENT"
  | .fixed => "FIXED"
  | .other name => name

def parse (raw : String) : DiscountType :=
  let token := Text.normalizeToken raw
  if token = "PERCENT" then .percent
  else if token = "FIXED" then .fixed
  else .other token

instance : Encode DiscountType := ⟨fun d => .str d.name⟩

instance : Decode DiscountType where
  decode?
    | .str s => some (parse s)
    | _ => none

end DiscountType

end EventTickets
