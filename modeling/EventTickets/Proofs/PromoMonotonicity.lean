import EventTickets.Proofs.PromoVerdict

/-!
# Larger orders and larger discounts

An order that costs more before the discount gets a discount that is no smaller and costs no less
after it: a percentage grows by at most what the order grows by, also where it is rounded and where
it is cut. The same rule with a larger value takes off no less. No operation on the way can fail,
for any amounts.
-/

namespace EventTickets

open Time (Instant)

namespace PromoRule

variable {rule : PromoRule} {context : PromoContext} {now : Instant} {event : EventId}

theorem firstUnmet?_of_positive {subtotal subtotal' : Int64} (h : 0 < subtotal.toInt)
    (h' : 0 < subtotal'.toInt) :
    rule.firstUnmet? ⟨now, event, subtotal⟩ = rule.firstUnmet? ⟨now, event, subtotal'⟩ := by
  have hmeets : ∀ reason, rule.Meets ⟨now, event, subtotal⟩ reason ↔
      rule.Meets ⟨now, event, subtotal'⟩ reason := by
    intro reason
    cases reason with
    | subtotalTooLow => exact iff_of_true h h'
    | _ => exact Iff.rfl
  rw [firstUnmet?, firstUnmet?]
  simp only [hmeets]

theorem firstUnmet?_value (rule : PromoRule) (value : Int64) (context : PromoContext) :
    { rule with value := value }.firstUnmet? context = rule.firstUnmet? context := by
  have hmeets : ∀ reason,
      { rule with value := value }.Meets context reason ↔ rule.Meets context reason := by
    intro reason
    cases reason <;> exact Iff.rfl
  rw [firstUnmet?, firstUnmet?]
  simp only [hmeets]

section

variable {subtotal subtotal' : Int}

theorem percentage_grows {percent : Int} (hpercent : 0 ≤ percent ∧ percent ≤ 100)
    (h : subtotal ≤ subtotal') : subtotal * percent / 100 ≤ subtotal' * percent / 100 ∧
      subtotal' * percent / 100 ≤ subtotal * percent / 100 + (subtotal' - subtotal) := by
  have hgrows : subtotal' * percent = subtotal * percent + (subtotal' - subtotal) * percent := by
    rw [← Int.add_mul]
    congr 1
    omega
  have hnonneg : 0 ≤ (subtotal' - subtotal) * percent := Int.mul_nonneg (by omega) hpercent.1
  have hle : (subtotal' - subtotal) * percent ≤ (subtotal' - subtotal) * 100 :=
    Int.mul_le_mul_of_nonneg_left hpercent.2 (by omega)
  omega

theorem exactDiscount_grows (rule : PromoRule) (h : subtotal ≤ subtotal') :
    rule.exactDiscount subtotal ≤ rule.exactDiscount subtotal' ∧
      rule.exactDiscount subtotal' ≤ rule.exactDiscount subtotal + (subtotal' - subtotal) := by
  rw [exactDiscount, exactDiscount]
  split
  · omega
  · next hvalue =>
    split
    · exact percentage_grows (by omega) h
    · omega
    · omega

theorem takenOff_grows (rule : PromoRule) (h : subtotal ≤ subtotal') :
    rule.takenOff subtotal ≤ rule.takenOff subtotal' ∧
      rule.takenOff subtotal' ≤ rule.takenOff subtotal + (subtotal' - subtotal) := by
  obtain ⟨hmore, hrest⟩ := rule.exactDiscount_grows h
  rw [takenOff, takenOff]
  split <;> omega

theorem takenOff_value_mono (rule : PromoRule) {value value' : Int64}
    (hvalue : value.toInt ≤ value'.toInt) (h : 0 < subtotal) :
    { rule with value := value }.takenOff subtotal ≤
      { rule with value := value' }.takenOff subtotal := by
  have hpart : ∀ n : Int, 0 < n → 0 ≤ subtotal * min n 100 :=
    fun n hn => Int.mul_nonneg (by omega) (by omega)
  have hparts : subtotal * min value.toInt 100 ≤ subtotal * min value'.toInt 100 :=
    Int.mul_le_mul_of_nonneg_left (by omega) (by omega)
  have hexact : { rule with value := value }.exactDiscount subtotal ≤
      { rule with value := value' }.exactDiscount subtotal := by
    simp only [exactDiscount]
    by_cases hnone : value.toInt ≤ 0
    · rw [if_pos hnone]
      split
      · omega
      · next hpositive =>
        have := hpart value'.toInt (by omega)
        split <;> omega
    · rw [if_neg hnone, if_neg (by omega)]
      split <;> omega
  simp only [takenOff]
  split <;> omega

end

end PromoRule

/-- A verdict on an order and one on an order that costs more before the discount, under the same
rule. -/
structure PromoValidation.Grows (v v' : PromoValidation) (subtotal' : Int64) : Prop where
  valid : v.valid = v'.valid
  reason : v.reason = v'.reason
  nonneg : 0 ≤ v.discountCents
  discount : v.discountCents ≤ v'.discountCents
  most : v'.discountCents ≤ subtotal'
  total : v.totalCents ≤ v'.totalCents

namespace PromoRule

variable {rule : PromoRule} {now : Instant} {event : EventId} {subtotal subtotal' : Int64}

theorem grows_of_unmet {reason : PromoRejection} (h : 0 < subtotal.toInt)
    (hle : subtotal.toInt ≤ subtotal'.toInt)
    (hunmet : rule.firstUnmet? ⟨now, event, subtotal⟩ = some reason) :
    (rule.validate ⟨now, event, subtotal⟩).Grows
      (rule.validate ⟨now, event, subtotal'⟩) subtotal' := by
  have h' : 0 < subtotal'.toInt := by omega
  rw [validate_of_unmet hunmet, validate_of_unmet (firstUnmet?_of_positive h h' ▸ hunmet)]
  have hwhole : ∀ a : Int64, 0 < a.toInt → max a 0 = a := by
    intro a ha
    have hall : a - 0 = a := Int64.sub_zero a
    exact hall ▸ Amount.max_sub_eq (a := a) (b := 0) (Int.le_refl _) (Int.le_of_lt ha)
  refine ⟨rfl, rfl, Int64.le_refl _, Int64.le_refl _, ?_, ?_⟩
  · exact Int64.le_iff_toInt_le.mpr (Int.le_of_lt h')
  · simp only [PromoValidation.rejected, hwhole _ h, hwhole _ h']
    exact Int64.le_iff_toInt_le.mpr hle

theorem grows_of_met (hle : subtotal.toInt ≤ subtotal'.toInt)
    (hmet : rule.firstUnmet? ⟨now, event, subtotal⟩ = none) :
    (rule.validate ⟨now, event, subtotal⟩).Grows
      (rule.validate ⟨now, event, subtotal'⟩) subtotal' := by
  have h : 0 < subtotal.toInt := meets_of_firstUnmet_eq_none hmet .subtotalTooLow
  have h' : 0 < subtotal'.toInt := by omega
  obtain ⟨discount, hcents, hverdict⟩ := validate_of_met hmet
  obtain ⟨discount', hcents', hverdict'⟩ := validate_of_met (firstUnmet?_of_positive h h' ▸ hmet)
  obtain ⟨hnonneg, hmost⟩ := takenOff_bounds h rule
  obtain ⟨hnonneg', hmost'⟩ := takenOff_bounds h' rule
  obtain ⟨hmore, hrest⟩ := rule.takenOff_grows hle
  dsimp only at hcents hcents' hverdict hverdict'
  rw [hverdict, hverdict']
  refine ⟨rfl, rfl, ?_, ?_, ?_, ?_⟩ <;> rw [Int64.le_iff_toInt_le]
  · rw [Int64.toInt_zero, hcents]
    exact hnonneg
  · rw [hcents, hcents']
    exact hmore
  · rw [hcents']
    exact hmost'
  · rw [Amount.toInt_sub_of_le (by omega) (by omega), Amount.toInt_sub_of_le (by omega) (by omega)]
    omega

theorem discount_value_mono (rule : PromoRule) {value value' : Int64} (h : value ≤ value') :
    ({ rule with value := value }.validate ⟨now, event, subtotal⟩).discountCents ≤
      ({ rule with value := value' }.validate ⟨now, event, subtotal⟩).discountCents := by
  rcases hmet : rule.firstUnmet? ⟨now, event, subtotal⟩ with _ | reason
  · have hpositive : 0 < subtotal.toInt := meets_of_firstUnmet_eq_none hmet .subtotalTooLow
    obtain ⟨discount, hcents, hverdict⟩ :=
      validate_of_met ((rule.firstUnmet?_value value _).trans hmet)
    obtain ⟨discount', hcents', hverdict'⟩ :=
      validate_of_met ((rule.firstUnmet?_value value' _).trans hmet)
    rw [hverdict, hverdict', Int64.le_iff_toInt_le, hcents, hcents']
    exact rule.takenOff_value_mono (Int64.le_iff_toInt_le.mp h) hpositive
  · rw [validate_of_unmet ((rule.firstUnmet?_value value _).trans hmet),
      validate_of_unmet ((rule.firstUnmet?_value value' _).trans hmet)]
    exact Int64.le_refl _

/-- Verdicts never fail. An order that costs more before the discount is accepted or rejected alike,
gets no smaller discount and is no cheaper after it; a rule with a larger value takes off no
less. -/
theorem discounts_monotone (rule : PromoRule) (now : Instant) (event : EventId) :
    (∀ subtotal, rule.validate? ⟨now, event, subtotal⟩ =
      some (rule.validate ⟨now, event, subtotal⟩)) ∧
    (∀ subtotal subtotal' : Int64, 0 < subtotal → subtotal ≤ subtotal' →
      (rule.validate ⟨now, event, subtotal⟩).Grows
        (rule.validate ⟨now, event, subtotal'⟩) subtotal') ∧
    ∀ subtotal value value' : Int64, value ≤ value' →
      ({ rule with value := value }.validate ⟨now, event, subtotal⟩).discountCents ≤
        ({ rule with value := value' }.validate ⟨now, event, subtotal⟩).discountCents := by
  refine ⟨fun _ => rule.validate?_eq_some _, fun subtotal subtotal' h hle => ?_, fun _ _ _ h =>
    rule.discount_value_mono h⟩
  have hle := Int64.le_iff_toInt_le.mp hle
  rcases hmet : rule.firstUnmet? ⟨now, event, subtotal⟩ with _ | reason
  · exact grows_of_met hle hmet
  · exact grows_of_unmet (Int64.lt_iff_toInt_lt.mp h) hle hmet

theorem discounts_monotone_third :
    ((Sample.percentOff 33).validate ⟨Sample.time, Sample.event, 1001⟩).Grows
      ⟨true, 330, 672, none⟩ 1002 ∧
      ((Sample.percentOff 33).validate ⟨Sample.time, Sample.event, Int64.maxValue⟩).discountCents ≤
        92233720368547758 := by
  obtain ⟨-, hgrows, hvalue⟩ := discounts_monotone (Sample.percentOff 33) Sample.time Sample.event
  exact ⟨hgrows 1001 1002 (by decide) (by decide), hvalue Int64.maxValue 33 100 (by decide)⟩

end PromoRule

end EventTickets
