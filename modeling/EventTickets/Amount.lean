/-!
# Amounts of money

Amounts are 64-bit integers in minor units of the currency. Sums and products are computed exactly
first: what does not fit is refused, or cut to the nearest end of the range, as the name says.
-/

namespace EventTickets.Amount

def represent? (n : Int) : Option Int64 :=
  if -0x8000000000000000 ≤ n ∧ n ≤ 0x7FFFFFFFFFFFFFFF then some (Int64.ofInt n) else none

theorem represent?_eq_some_iff {n : Int} {a : Int64} : represent? n = some a ↔ a.toInt = n := by
  have hlow := Int64.le_toInt a
  have hhigh := Int64.toInt_lt a
  rw [represent?]
  split
  · next h =>
    have hn : (Int64.ofInt n).toInt = n := Int64.toInt_ofInt_of_le h.1 (by omega)
    rw [Option.some.injEq]
    exact ⟨fun e => e ▸ hn, fun e => by rw [← e, Int64.ofInt_toInt]⟩
  · exact ⟨nofun, fun e => by omega⟩

theorem represent?_eq_none_iff {n : Int} (h : 0 ≤ n) :
    represent? n = none ↔ 0x7FFFFFFFFFFFFFFF < n := by
  rw [represent?]
  split
  · exact ⟨nofun, fun _ => by omega⟩
  · exact ⟨fun _ => by omega, fun _ => rfl⟩

def saturating (n : Int) : Int64 :=
  if n < -0x8000000000000000 then Int64.minValue
  else if 0x7FFFFFFFFFFFFFFF < n then Int64.maxValue
  else Int64.ofInt n

def add? (a b : Int64) : Option Int64 := represent? (a.toInt + b.toInt)

/-- The sum, or the first amount alone where the second does not count. -/
def addIf? (counts : Prop) [Decidable counts] (a b : Int64) : Option Int64 :=
  if counts then add? a b else some a

def times? (unit : Int64) (quantity : UInt32) : Option Int64 :=
  represent? (unit.toInt * quantity.toNat)

theorem add?_eq_some_iff {a b c : Int64} : add? a b = some c ↔ c.toInt = a.toInt + b.toInt :=
  represent?_eq_some_iff

theorem times?_eq_some_iff {unit c : Int64} {quantity : UInt32} :
    times? unit quantity = some c ↔ c.toInt = unit.toInt * quantity.toNat := represent?_eq_some_iff

theorem add_times {a price : Int64} (quantity : UInt32) (ha : 0 ≤ a.toInt)
    (hprice : 0 ≤ price.toInt) :
    (times? price quantity).bind (add? a) =
      represent? (a.toInt + price.toInt * quantity.toNat) := by
  have hnonneg : 0 ≤ price.toInt * quantity.toNat := Int.mul_nonneg hprice (Int.natCast_nonneg _)
  rcases htotal : times? price quantity with _ | total
  · have htoo := (represent?_eq_none_iff hnonneg).mp htotal
    exact ((represent?_eq_none_iff (Int.add_nonneg ha hnonneg)).mpr (by omega)).symm
  · rw [Option.bind_some, add?, times?_eq_some_iff.mp htotal]

def saturatingMul (a b : Int64) : Int64 := saturating (a.toInt * b.toInt)

def clamp (low high a : Int64) : Int64 := if a < low then low else if high < a then high else a

/-- There is none between bounds that are not in order. -/
def clamp? (low high a : Int64) : Option Int64 :=
  if high < low then none else some (clamp low high a)

def sub? (a b : Int64) : Option Int64 := represent? (a.toInt - b.toInt)

def div? (a b : Int64) : Option Int64 := if b = 0 then none else represent? (a.toInt.tdiv b.toInt)

theorem clamp_bounds {low high : Int64} (h : low.toInt ≤ high.toInt) (a : Int64) :
    low.toInt ≤ (clamp low high a).toInt ∧ (clamp low high a).toInt ≤ high.toInt := by
  rw [clamp]
  split
  · exact ⟨Int.le_refl _, h⟩
  · next hlow =>
    rw [Int64.lt_iff_toInt_lt] at hlow
    split
    · exact ⟨h, Int.le_refl _⟩
    · next hhigh =>
      rw [Int64.lt_iff_toInt_lt] at hhigh
      omega

theorem clamp_eq_self {low high a : Int64} (hlow : low.toInt ≤ a.toInt)
    (hhigh : a.toInt ≤ high.toInt) : clamp low high a = a := by
  have hnotLow : ¬ a < low := mt Int64.lt_iff_toInt_lt.mp (by omega)
  have hnotHigh : ¬ high < a := mt Int64.lt_iff_toInt_lt.mp (by omega)
  rw [clamp, if_neg hnotLow, if_neg hnotHigh]

theorem clamp?_eq_some {low high : Int64} (h : low.toInt ≤ high.toInt) (a : Int64) :
    clamp? low high a = some (clamp low high a) := by
  rw [clamp?, if_neg]
  rw [Int64.lt_iff_toInt_lt]
  omega

theorem toInt_sub_of_le {a b : Int64} (hb : 0 ≤ b.toInt) (hle : b.toInt ≤ a.toInt) :
    (a - b).toInt = a.toInt - b.toInt := by
  have hlow := Int64.le_toInt a
  have hhigh := Int64.toInt_lt a
  rw [Int64.toInt_sub]
  exact Int.bmod_eq_of_le (by omega) (by omega)

theorem sub?_eq_some {a b : Int64} (hb : 0 ≤ b.toInt) (hle : b.toInt ≤ a.toInt) :
    sub? a b = some (a - b) :=
  represent?_eq_some_iff.mpr (toInt_sub_of_le hb hle)

theorem div?_eq_some {a b : Int64} (hb : b ≠ 0) (hb' : b ≠ -1) : div? a b = some (a / b) := by
  rw [div?, if_neg hb]
  exact represent?_eq_some_iff.mpr (Int64.toInt_div_of_ne_right a b hb')

theorem max_sub_eq {a b : Int64} (hb : 0 ≤ b.toInt) (hle : b.toInt ≤ a.toInt) :
    max (a - b) 0 = a - b := by
  change (if a - b ≤ 0 then 0 else a - b) = a - b
  split
  · next hnone =>
    rw [Int64.le_iff_toInt_le, toInt_sub_of_le hb hle, Int64.toInt_zero] at hnone
    refine Int64.toInt_inj.mp ?_
    rw [toInt_sub_of_le hb hle, Int64.toInt_zero]
    omega
  · rfl

theorem toInt_max_sub {a b : Int64} (hb : 0 ≤ b.toInt) (hle : b.toInt ≤ a.toInt) :
    (max (a - b) 0).toInt = a.toInt - b.toInt := by
  rw [max_sub_eq hb hle, toInt_sub_of_le hb hle]

end EventTickets.Amount
