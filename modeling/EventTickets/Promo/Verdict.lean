import EventTickets.Amount
import EventTickets.Promo.Code

/-!
# Whether a promo code applies

The checks are made in one order and the first that fails gives the reason: subtotal, switch,
activity window, usage limit, event, discount type. A limit of zero limits nothing, and a scope that
is no event restricts nothing. Percentages above one hundred count as one hundred. Operations on
amounts can fail, but none does on the way to a verdict.
-/

namespace EventTickets

open Time (Instant)

/-- Why a rule does not apply, in the order of the checks. -/
inductive PromoRejection where
  | subtotalTooLow
  | inactive
  | outOfWindow
  | usageLimitReached
  | eventNotAllowed
  | unsupportedDiscountType
  deriving DecidableEq

namespace PromoRejection

def all : List PromoRejection :=
  [.subtotalTooLow, .inactive, .outOfWindow, .usageLimitReached, .eventNotAllowed,
    .unsupportedDiscountType]

def code : PromoRejection → String
  | .subtotalTooLow => "subtotal_too_low"
  | .inactive => "inactive"
  | .outOfWindow => "out_of_window"
  | .usageLimitReached => "usage_limit_reached"
  | .eventNotAllowed => "event_not_allowed"
  | .unsupportedDiscountType => "unsupported_discount_type"

def ofCode? (s : String) : Option PromoRejection := all.find? (·.code == s)

instance : Encode PromoRejection := ⟨fun r => .str r.code⟩

instance : Decode PromoRejection := ⟨fun j => (alternative? j).bind ofCode?⟩

end PromoRejection

/-- Why a code cannot be used: it was not asked for properly, there is none, or its rule rejects. -/
inductive PromoFailure where
  | invalidInput
  | notFound
  | rejected (reason : PromoRejection)
  deriving DecidableEq

namespace PromoFailure

def code : PromoFailure → String
  | .invalidInput => "invalid_input"
  | .notFound => "not_found"
  | .rejected reason => reason.code

def ofCode? (s : String) : Option PromoFailure :=
  if s = "invalid_input" then some .invalidInput
  else if s = "not_found" then some .notFound
  else (PromoRejection.ofCode? s).map .rejected

instance : Encode PromoFailure := ⟨fun f => .str f.code⟩

end PromoFailure

structure PromoRule where
  discountType : DiscountType
  value : Int64
  usageLimit : Option UInt32
  usedCount : UInt32
  activeFrom : Option Instant
  activeTo : Option Instant
  eventId : Option EventId
  isActive : Bool
  deriving DecidableEq

def PromoCode.rule (p : PromoCode) : PromoRule where
  discountType := p.discountType
  value := p.value
  usageLimit := p.usageLimit
  usedCount := p.usedCount
  activeFrom := p.activeFrom
  activeTo := p.activeTo
  eventId := p.eventId
  isActive := p.isActive

structure PromoContext where
  now : Instant
  eventId : EventId
  subtotalCents : Int64
  deriving DecidableEq

/-- The answer: a discount and what is left to pay, or what there was to pay and a reason. -/
structure PromoValidation where
  valid : Bool
  discountCents : Int64
  totalCents : Int64
  reason : Option PromoRejection
  deriving DecidableEq

namespace PromoValidation

def fieldNames : List String := ["valid", "discountCents", "totalCents", "reason"]

instance : Encode PromoValidation where
  encode r := .obj [
    ("valid", encode r.valid),
    ("discountCents", encode r.discountCents),
    ("totalCents", encode r.totalCents),
    ("reason", encode r.reason)]

instance : Decode PromoValidation where
  decode? j := do
    let c ← Components.of? fieldNames j
    return {
      valid := ← c.required "valid",
      discountCents := ← c.required "discountCents",
      totalCents := ← c.required "totalCents",
      reason := ← c.optional "reason" }

def accepted? (subtotal discount : Int64) : Option PromoValidation := do
  let discount ← Amount.clamp? 0 subtotal discount
  let total ← Amount.sub? subtotal discount
  return { valid := true, discountCents := discount, totalCents := total, reason := none }

def rejected (subtotal : Int64) (reason : PromoRejection) : PromoValidation :=
  { valid := false, discountCents := 0, totalCents := max subtotal 0, reason := some reason }

def result (v : PromoValidation) : Except PromoRejection Int64 :=
  match v.reason with
  | none => .ok v.discountCents
  | some reason => .error reason

end PromoValidation

namespace PromoRule

def discountFor? (kind : DiscountType) (value subtotal : Int64) :
    Option (Except PromoRejection Int64) :=
  match kind with
  | .percent =>
    if value ≤ 0 then some (.ok 0)
    else (Amount.div? (Amount.saturatingMul subtotal (min value 100)) 100).map .ok
  | .fixed => (Amount.clamp? 0 subtotal value).map .ok
  | .other _ => some (.error .unsupportedDiscountType)

/-- Whether the window is open; both of its ends belong to it. -/
def isOpen (rule : PromoRule) (now : Instant) : Bool :=
  rule.activeFrom.all (fun start => !decide (now < start)) &&
    rule.activeTo.all (fun stop => !decide (stop < now))

def isExhausted (rule : PromoRule) : Bool :=
  rule.usageLimit.any fun limit => decide (0 < limit) && decide (limit ≤ rule.usedCount)

def admits (rule : PromoRule) (event : EventId) : Bool :=
  rule.eventId.all fun scope => !scope.isValid || scope == event

def check? (rule : PromoRule) (context : PromoContext) : Option (Except PromoRejection Int64) :=
  if context.subtotalCents ≤ 0 then some (.error .subtotalTooLow)
  else if !rule.isActive then some (.error .inactive)
  else if !rule.isOpen context.now then some (.error .outOfWindow)
  else if rule.isExhausted then some (.error .usageLimitReached)
  else if !rule.admits context.eventId then some (.error .eventNotAllowed)
  else discountFor? rule.discountType rule.value context.subtotalCents

def validate? (rule : PromoRule) (context : PromoContext) : Option PromoValidation := do
  match ← rule.check? context with
  | .ok discount => PromoValidation.accepted? context.subtotalCents discount
  | .error reason => return .rejected context.subtotalCents reason

theorem isSome_discountFor? {subtotal : Int64} (h : 0 < subtotal.toInt)
    (kind : DiscountType) (value : Int64) : (discountFor? kind value subtotal).isSome := by
  cases kind with
  | percent =>
    rw [discountFor?]
    split
    · rfl
    · rw [Amount.div?_eq_some (by decide) (by decide)]
      rfl
  | fixed =>
    have hbounds : (0 : Int64).toInt ≤ subtotal.toInt := Int.le_of_lt h
    rw [discountFor?, Amount.clamp?_eq_some hbounds]
    rfl
  | other name => rfl

theorem isSome_check? (rule : PromoRule) (context : PromoContext) :
    (rule.check? context).isSome := by
  rw [check?]
  split
  · rfl
  · next hsubtotal =>
    have hdiscount := isSome_discountFor? (Int64.lt_iff_toInt_lt.mp (Int64.not_le.mp hsubtotal))
      rule.discountType rule.value
    split
    · rfl
    · split
      · rfl
      · split
        · rfl
        · split
          · rfl
          · exact hdiscount

theorem positive_of_check? {rule : PromoRule} {context : PromoContext} {discount : Int64}
    (h : rule.check? context = some (.ok discount)) : 0 < context.subtotalCents.toInt := by
  rw [check?] at h
  split at h
  · cases h
  · next hsubtotal => exact Int64.lt_iff_toInt_lt.mp (Int64.not_le.mp hsubtotal)

theorem accepted?_eq_some {subtotal : Int64} (h : 0 < subtotal.toInt) (discount : Int64) :
    PromoValidation.accepted? subtotal discount = some
      ⟨true, Amount.clamp 0 subtotal discount, subtotal - Amount.clamp 0 subtotal discount,
        none⟩ := by
  have hbounds : (0 : Int64).toInt ≤ subtotal.toInt := Int.le_of_lt h
  obtain ⟨hlow, hhigh⟩ := Amount.clamp_bounds hbounds discount
  rw [PromoValidation.accepted?, Amount.clamp?_eq_some hbounds,
    Option.bind_eq_bind, Option.bind_some, Amount.sub?_eq_some hlow hhigh]
  rfl

theorem isSome_validate? (rule : PromoRule) (context : PromoContext) :
    (rule.validate? context).isSome := by
  obtain ⟨checked, hcheck⟩ := Option.isSome_iff_exists.mp (rule.isSome_check? context)
  rw [validate?, hcheck]
  cases checked with
  | ok discount =>
    exact Option.isSome_of_eq_some (accepted?_eq_some (positive_of_check? hcheck) discount)
  | error reason => rfl

def validate (rule : PromoRule) (context : PromoContext) : PromoValidation :=
  (rule.validate? context).get (rule.isSome_validate? context)

theorem validate?_eq_some (rule : PromoRule) (context : PromoContext) :
    rule.validate? context = some (rule.validate context) := (Option.some_get _).symm

theorem validate_eq {rule : PromoRule} {context : PromoContext} {v : PromoValidation}
    (h : rule.validate? context = some v) : rule.validate context = v :=
  Option.some.inj ((rule.validate?_eq_some context).symm.trans h)

/-- A verdict accepts with a discount between nothing and the subtotal, or it rejects. -/
theorem validate_cases (rule : PromoRule) (context : PromoContext) :
    (∃ value, rule.check? context = some (.ok value) ∧ rule.validate context =
      ⟨true, Amount.clamp 0 context.subtotalCents value,
        context.subtotalCents - Amount.clamp 0 context.subtotalCents value, none⟩) ∨
    ∃ reason, rule.check? context = some (.error reason) ∧
      rule.validate context = .rejected context.subtotalCents reason := by
  obtain ⟨checked, hcheck⟩ := Option.isSome_iff_exists.mp (rule.isSome_check? context)
  cases checked with
  | ok value =>
    refine .inl ⟨value, hcheck, validate_eq ?_⟩
    rw [validate?, hcheck]
    exact accepted?_eq_some (positive_of_check? hcheck) value
  | error reason =>
    refine .inr ⟨reason, hcheck, validate_eq ?_⟩
    rw [validate?, hcheck]
    rfl

end PromoRule

end EventTickets
