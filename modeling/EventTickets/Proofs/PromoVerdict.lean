import EventTickets.Promo.Verdict
import EventTickets.Sample

/-!
# What a promo rule decides

A rule puts six conditions to an order, in the order in which the reasons to reject are listed, and
gives the reason of the first that is not met. If all are met it takes something off: a fixed amount
is exact, and so is a percentage until the product it is computed from reaches the end of the range
of amounts. From there on a percentage takes off a hundredth of the largest amount, and so a hundred
percent no longer takes off everything.
-/

namespace EventTickets

open Time (Instant)

theorem Amount.toInt_saturating {n : Int} (h : 0 ≤ n) :
    (saturating n).toInt = min n 0x7FFFFFFFFFFFFFFF := by
  rw [saturating, if_neg (by omega)]
  split
  · next hlarge =>
    rw [Int.min_eq_right (by omega)]
    rfl
  · next hfits => rw [Int64.toInt_ofInt_of_le (by omega) (by omega), Int.min_eq_left (by omega)]

namespace PromoRule

variable {rule : PromoRule} {context : PromoContext}

def Meets (rule : PromoRule) (context : PromoContext) : PromoRejection → Prop
  | .subtotalTooLow => 0 < context.subtotalCents.toInt
  | .inactive => rule.isActive = true
  | .outOfWindow =>
    (∀ start ∈ rule.activeFrom, start ≤ context.now) ∧ ∀ stop ∈ rule.activeTo, context.now ≤ stop
  | .usageLimitReached =>
    ∀ limit ∈ rule.usageLimit, 0 < limit.toNat → rule.usedCount.toNat < limit.toNat
  | .eventNotAllowed => ∀ scope ∈ rule.eventId, 0 < scope.number.toInt → scope = context.eventId
  | .unsupportedDiscountType => rule.discountType = .percent ∨ rule.discountType = .fixed

instance (rule : PromoRule) (context : PromoContext) : DecidablePred (rule.Meets context)
  | .subtotalTooLow => inferInstanceAs (Decidable (0 < context.subtotalCents.toInt))
  | .inactive => inferInstanceAs (Decidable (rule.isActive = true))
  | .outOfWindow => inferInstanceAs (Decidable
      ((∀ start ∈ rule.activeFrom, start ≤ context.now) ∧ ∀ stop ∈ rule.activeTo,
        context.now ≤ stop))
  | .usageLimitReached => Option.decidableForallMem rule.usageLimit
  | .eventNotAllowed => inferInstanceAs (Decidable
      (∀ scope ∈ rule.eventId, 0 < scope.number.toInt → scope = context.eventId))
  | .unsupportedDiscountType =>
    inferInstanceAs (Decidable (rule.discountType = .percent ∨ rule.discountType = .fixed))

/-- The first reason whose condition is not met. -/
def firstUnmet? (rule : PromoRule) (context : PromoContext) : Option PromoRejection :=
  PromoRejection.all.find? fun reason => !decide (rule.Meets context reason)

theorem subtotal_le_zero_iff :
    context.subtotalCents ≤ 0 ↔ ¬ rule.Meets context .subtotalTooLow := by
  simp [Meets, Int64.le_iff_toInt_le]

theorem isOpen_iff : rule.isOpen context.now = true ↔ rule.Meets context .outOfWindow := by
  have hfrom : (∀ start ∈ rule.activeFrom, start ≤ context.now) ↔
      rule.activeFrom.all (fun start => !decide (context.now < start)) = true := by
    cases rule.activeFrom <;> simp [Instant.not_lt]
  have hto : (∀ stop ∈ rule.activeTo, context.now ≤ stop) ↔
      rule.activeTo.all (fun stop => !decide (stop < context.now)) = true := by
    cases rule.activeTo <;> simp [Instant.not_lt]
  rw [isOpen, Bool.and_eq_true, ← hfrom, ← hto]
  rfl

theorem isExhausted_iff : rule.isExhausted = true ↔ ¬ rule.Meets context .usageLimitReached := by
  cases hlimit : rule.usageLimit with
  | none => simp [isExhausted, Meets, hlimit]
  | some limit => simp [isExhausted, Meets, hlimit, UInt32.lt_iff_toNat_lt, UInt32.le_iff_toNat_le]

theorem admits_iff : rule.admits context.eventId = true ↔ rule.Meets context .eventNotAllowed := by
  cases hscope : rule.eventId with
  | none => simp [admits, Meets, hscope]
  | some scope =>
    have hvalid : scope.isValid = true ↔ 0 < scope.number.toInt := by
      simp [NumberId.isValid, Int64.lt_iff_toInt_lt]
    simp only [admits, Meets, hscope, Option.all_some, Option.mem_some, forall_eq', ← hvalid]
    cases scope.isValid <;> simp

theorem discountFor?_unsupported (h : ¬ rule.Meets context .unsupportedDiscountType)
    (value subtotal : Int64) :
    discountFor? rule.discountType value subtotal = some (.error .unsupportedDiscountType) := by
  rcases hkind : rule.discountType with _ | _ | name
  · exact absurd (.inl hkind) h
  · exact absurd (.inr hkind) h
  · rfl

theorem firstUnmet_cons (reason : PromoRejection) (rest : List PromoRejection)
    (last : Option (Except PromoRejection Int64)) :
    ((reason :: rest).find? fun reason => !decide (rule.Meets context reason)).elim last
        (fun reason => some (.error reason)) =
      if ¬ rule.Meets context reason then some (.error reason)
      else (rest.find? fun reason => !decide (rule.Meets context reason)).elim last
        fun reason => some (.error reason) := by
  by_cases h : rule.Meets context reason <;> simp [h]

theorem check?_eq (rule : PromoRule) (context : PromoContext) :
    rule.check? context =
      (rule.firstUnmet? context).elim
        (discountFor? rule.discountType rule.value context.subtotalCents)
        fun reason => some (.error reason) := by
  have hsubtotal : context.subtotalCents ≤ 0 ↔ ¬ rule.Meets context .subtotalTooLow :=
    subtotal_le_zero_iff
  have hexhausted : rule.isExhausted = true ↔ ¬ rule.Meets context .usageLimitReached :=
    isExhausted_iff
  have hactive : (!rule.isActive) = true ↔ ¬ rule.Meets context .inactive := by
    rw [Meets, Bool.not_eq_true, Bool.not_eq_true']
  have hopen : (!rule.isOpen context.now) = true ↔ ¬ rule.Meets context .outOfWindow := by
    rw [← isOpen_iff, Bool.not_eq_true, Bool.not_eq_true']
  have hadmits : (!rule.admits context.eventId) = true ↔ ¬ rule.Meets context .eventNotAllowed := by
    rw [← admits_iff, Bool.not_eq_true, Bool.not_eq_true']
  have hlast : discountFor? rule.discountType rule.value context.subtotalCents =
      if ¬ rule.Meets context .unsupportedDiscountType then some (.error .unsupportedDiscountType)
      else discountFor? rule.discountType rule.value context.subtotalCents := by
    split
    · next h => exact discountFor?_unsupported h _ _
    · rfl
  simp only [check?, hsubtotal, hactive, hopen, hexhausted, hadmits]
  simp only [firstUnmet?, PromoRejection.all, firstUnmet_cons, List.find?_nil,
    Option.elim_none, ← hlast]

theorem meets_of_firstUnmet_eq_none (h : rule.firstUnmet? context = none)
    (reason : PromoRejection) : rule.Meets context reason := by
  have hmem : reason ∈ PromoRejection.all := by cases reason <;> decide
  simpa using List.find?_eq_none.mp h reason hmem

/-- What a rule takes off, in integers without an end. -/
def exactDiscount (rule : PromoRule) (subtotal : Int) : Int :=
  if rule.value.toInt ≤ 0 then 0
  else
    match rule.discountType with
    | .percent => subtotal * min rule.value.toInt 100 / 100
    | .fixed => min rule.value.toInt subtotal
    | .other _ => 0

/-- The most that a percentage takes off: a hundredth of the largest amount. -/
def percentageEnd : Int := 0x7FFFFFFFFFFFFFFF / 100

theorem toInt_percent (value : Int64) : (min value 100).toInt = min value.toInt 100 := by
  have hhundred : (100 : Int64).toInt = 100 := rfl
  change (if value ≤ 100 then value else 100).toInt = _
  simp only [Int64.le_iff_toInt_le, hhundred]
  split
  · next h => rw [Int.min_eq_left h]
  · next h => rw [hhundred, Int.min_eq_right (by omega)]

section

variable {value subtotal : Int64} (hsubtotal : 0 < subtotal.toInt)
include hsubtotal

theorem product_nonneg (hvalue : 0 < value.toInt) : 0 ≤ subtotal.toInt * min value.toInt 100 :=
  Int.mul_nonneg (Int.le_of_lt hsubtotal) (by omega)

theorem toInt_percentage (hvalue : 0 < value.toInt) :
    (Amount.saturatingMul subtotal (min value 100) / 100).toInt =
      min (subtotal.toInt * min value.toInt 100 / 100) percentageEnd := by
  have hproduct := product_nonneg hsubtotal hvalue
  have hsaturated : (Amount.saturatingMul subtotal (min value 100)).toInt =
      min (subtotal.toInt * min value.toInt 100) 0x7FFFFFFFFFFFFFFF := by
    rw [Amount.saturatingMul, toInt_percent, Amount.toInt_saturating hproduct]
  -- The product is cut before it is divided, so a hundredth of it is cut at a hundredth of the
  -- largest amount.
  have hhundred : (100 : Int64).toInt = 100 := rfl
  rw [Int64.toInt_div_of_ne_right _ _ (by decide), hsaturated, hhundred,
    Int.tdiv_eq_ediv_of_nonneg (by omega), percentageEnd]
  omega

theorem exactDiscount_bounds (rule : PromoRule) :
    0 ≤ rule.exactDiscount subtotal.toInt ∧ rule.exactDiscount subtotal.toInt ≤ subtotal.toInt := by
  rw [exactDiscount]
  split
  · omega
  · next hvalue =>
    have hproduct := product_nonneg hsubtotal (Int.not_le.mp hvalue)
    have hall : subtotal.toInt * min rule.value.toInt 100 ≤ subtotal.toInt * 100 :=
      Int.mul_le_mul_of_nonneg_left (Int.min_le_right _ _) (Int.le_of_lt hsubtotal)
    split <;> omega

end

theorem discountFor?_eq_ok (h : rule.firstUnmet? context = none) :
    ∃ discount, discountFor? rule.discountType rule.value context.subtotalCents =
      some (.ok discount) ∧
      discount.toInt = if rule.discountType = .percent
        then min (rule.exactDiscount context.subtotalCents.toInt) percentageEnd
        else rule.exactDiscount context.subtotalCents.toInt := by
  have hsubtotal : 0 < context.subtotalCents.toInt := meets_of_firstUnmet_eq_none h .subtotalTooLow
  have hvalue : rule.value ≤ 0 ↔ rule.value.toInt ≤ 0 := by
    rw [Int64.le_iff_toInt_le, Int64.toInt_zero]
  rcases meets_of_firstUnmet_eq_none h .unsupportedDiscountType with hkind | hkind
  · rw [if_pos hkind, exactDiscount, hkind, discountFor?]
    by_cases hnone : rule.value ≤ 0
    · rw [if_pos hnone, if_pos (hvalue.mp hnone)]
      exact ⟨0, rfl, rfl⟩
    · have hpositive := mt hvalue.mpr hnone
      rw [if_neg hnone, if_neg hpositive, Amount.div?_eq_some (by decide) (by decide)]
      exact ⟨_, rfl, toInt_percentage hsubtotal (Int.not_le.mp hpositive)⟩
  · have hbounds : (0 : Int64).toInt ≤ context.subtotalCents.toInt := Int.le_of_lt hsubtotal
    refine ⟨_, by rw [hkind, discountFor?, Amount.clamp?_eq_some hbounds, Option.map_some], ?_⟩
    rw [if_neg (by rw [hkind]; decide), exactDiscount, hkind, Amount.clamp]
    simp only [Int64.lt_iff_toInt_lt, Int64.toInt_zero]
    by_cases hnegative : rule.value.toInt < 0
    · rw [if_pos hnegative, if_pos (by omega), Int64.toInt_zero]
    · rw [if_neg hnegative]
      split <;> split <;> omega

theorem validate_of_unmet {reason : PromoRejection} (h : rule.firstUnmet? context = some reason) :
    rule.validate context = .rejected context.subtotalCents reason := by
  refine validate_eq ?_
  rw [validate?, check?_eq, h]
  rfl

def takenOff (rule : PromoRule) (subtotal : Int) : Int :=
  if rule.discountType = .percent then min (rule.exactDiscount subtotal) percentageEnd else
    rule.exactDiscount subtotal

theorem takenOff_bounds {subtotal : Int64} (h : 0 < subtotal.toInt) (rule : PromoRule) :
    0 ≤ rule.takenOff subtotal.toInt ∧ rule.takenOff subtotal.toInt ≤ subtotal.toInt := by
  have hend : 0 ≤ percentageEnd := by decide
  obtain ⟨hnonneg, hle⟩ := exactDiscount_bounds h rule
  rw [takenOff]
  split <;> omega

theorem validate_of_met (h : rule.firstUnmet? context = none) :
    ∃ discount : Int64, discount.toInt = rule.takenOff context.subtotalCents.toInt ∧
      rule.validate context = ⟨true, discount, context.subtotalCents - discount, none⟩ := by
  obtain ⟨discount, hdiscount, hcents⟩ := discountFor?_eq_ok h
  have hpositive : 0 < context.subtotalCents.toInt := meets_of_firstUnmet_eq_none h .subtotalTooLow
  obtain ⟨hnonneg, hle⟩ := takenOff_bounds hpositive rule
  have hcents : discount.toInt = rule.takenOff context.subtotalCents.toInt := hcents
  have hkept : Amount.clamp 0 context.subtotalCents discount = discount :=
    Amount.clamp_eq_self (hcents ▸ hnonneg) (hcents ▸ hle)
  refine ⟨discount, hcents, validate_eq ?_⟩
  have haccepted := accepted?_eq_some hpositive discount
  rw [hkept] at haccepted
  rw [validate?, check?_eq, h, Option.elim_none, hdiscount]
  exact haccepted

theorem reason_validate (rule : PromoRule) (context : PromoContext) :
    (rule.validate context).reason = rule.firstUnmet? context := by
  rcases h : rule.firstUnmet? context with _ | reason
  · obtain ⟨discount, -, hverdict⟩ := validate_of_met h
    rw [hverdict]
  · rw [validate_of_unmet h]
    rfl

/-- A rule rejects an order for the first of its conditions that the order does not meet. An order
that meets all gets the discount of the rule in exact integers, unless that is a percentage of more
than a hundredth of the largest amount, which is taken off then. -/
theorem verdict_exact_until_percentage_end (rule : PromoRule) (context : PromoContext) :
    (∀ reason, rule.firstUnmet? context = some reason →
      rule.validate context = ⟨false, 0, max context.subtotalCents 0, some reason⟩) ∧
    (rule.firstUnmet? context = none →
      ∃ discount : Int64, rule.validate context =
        ⟨true, discount, context.subtotalCents - discount, none⟩ ∧
        (context.subtotalCents - discount).toInt = context.subtotalCents.toInt - discount.toInt ∧
        (discount.toInt = rule.exactDiscount context.subtotalCents.toInt ↔
          (rule.discountType = .percent →
            rule.exactDiscount context.subtotalCents.toInt ≤ percentageEnd)) ∧
        (rule.discountType = .percent →
          discount.toInt = min (rule.exactDiscount context.subtotalCents.toInt)
            percentageEnd)) := by
  refine ⟨fun reason h => validate_of_unmet h, fun h => ?_⟩
  obtain ⟨discount, hcents, hverdict⟩ := validate_of_met h
  obtain ⟨hnonneg, hle⟩ := takenOff_bounds (meets_of_firstUnmet_eq_none h .subtotalTooLow) rule
  refine ⟨discount, hverdict, ?_, ?_, fun hkind => by rw [hcents, takenOff, if_pos hkind]⟩
  · rw [← hcents] at hnonneg hle
    exact Amount.toInt_sub_of_le hnonneg hle
  · rw [hcents, takenOff]
    split
    · next hkind =>
      constructor
      · intro hexact _
        omega
      · intro hin
        rw [Int.min_eq_left (hin hkind)]
    · next hkind => exact ⟨fun _ hpercent => absurd hpercent hkind, fun _ => rfl⟩

end PromoRule

namespace Sample

def percentOff (value : Int64) : PromoRule where
  discountType := .percent
  value := value
  usageLimit := none
  usedCount := 0
  activeFrom := none
  activeTo := none
  eventId := none
  isActive := true

end Sample

namespace PromoRule

theorem verdict_exact_until_percentage_end_third :
    (∃ discount : Int64, (Sample.percentOff 33).validate ⟨Sample.time, Sample.event, 1001⟩ =
      ⟨true, discount, 1001 - discount, none⟩ ∧ discount.toInt = 330) ∧
    (Sample.percentOff 33).validate ⟨Sample.time, Sample.event, 0⟩ =
      ⟨false, 0, 0, some .subtotalTooLow⟩ := by
  refine ⟨?_, (verdict_exact_until_percentage_end (Sample.percentOff 33)
    ⟨Sample.time, Sample.event, 0⟩).1
    .subtotalTooLow (by decide)⟩
  obtain ⟨discount, hverdict, -, hexact, -⟩ :=
    (verdict_exact_until_percentage_end (Sample.percentOff 33) ⟨Sample.time, Sample.event, 1001⟩).2
      (by decide)
  exact ⟨discount, hverdict, hexact.mpr fun _ => by decide⟩

/-- Everything off the largest amount leaves most of it. -/
theorem hundred_percent_leaves_rest :
    (Sample.percentOff 100).firstUnmet? ⟨Sample.time, Sample.event, Int64.maxValue⟩ = none ∧
      (Sample.percentOff 100).exactDiscount Int64.maxValue.toInt = Int64.maxValue.toInt ∧
      (Sample.percentOff 100).validate ⟨Sample.time, Sample.event, Int64.maxValue⟩ =
        ⟨true, 92233720368547758, 9131138316486228049, none⟩ := by
  decide

end PromoRule

end EventTickets
