import EventTickets.Service.Request

/-!
# Trying a promo code

Tells what a code would do to a subtotal, and uses nothing up.
-/

namespace EventTickets

structure PromoCheck where
  valid : Bool
  code : String
  discountType : Option DiscountType
  value : Int64
  discountCents : Int64
  totalCents : Int64
  reason : Option PromoFailure
  deriving DecidableEq

namespace PromoCheck

instance : Encode PromoCheck where
  encode r := .obj [
    ("valid", encode r.valid),
    ("code", encode r.code),
    ("discountType", encode r.discountType),
    ("value", encode r.value),
    ("discountCents", encode r.discountCents),
    ("totalCents", encode r.totalCents),
    ("reason", encode r.reason)]

def failed (code : String) (subtotalCents : Int64) (reason : PromoFailure) : PromoCheck where
  valid := false
  code := code
  discountType := none
  value := 0
  discountCents := 0
  totalCents := max subtotalCents 0
  reason := some reason

def ofValidation (promo : PromoCode) (verdict : PromoValidation) : PromoCheck where
  valid := verdict.valid
  code := promo.code
  discountType := some promo.discountType
  value := promo.value
  discountCents := verdict.discountCents
  totalCents := verdict.totalCents
  reason := verdict.reason.map .rejected

end PromoCheck

def validatePromoCode (event : EventId) (code : String) (subtotalCents : Int64) :
    Service PromoCheck := do
  let code := Text.normalizeToken code
  if code.isEmpty || subtotalCents ≤ 0 then return .failed code subtotalCents .invalidInput
  match ← Service.store (.findPromoByCode code) with
  | none => return .failed code subtotalCents .notFound
  | some promo =>
    let now ← Service.now
    return .ofValidation promo (promo.rule.validate ⟨now, event, subtotalCents⟩)

end EventTickets
