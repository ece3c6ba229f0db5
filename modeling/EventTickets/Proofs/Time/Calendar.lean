import EventTickets.Time.Calendar

/-!
# Days and dates

Every day has a date of the calendar, and that date gives the day back. An era is cut into
centuries, these into cycles of four years and those into years, all from March, so that only the
last year of a cycle, and not of every century, has a day more than the others.
-/

namespace EventTickets.Time.CivilDate

theorem Valid.day_le {d : CivilDate} (h : d.Valid) : d.day ≤ 31 := by
  obtain ⟨-, -, -, hday⟩ := h
  rw [daysInMonth] at hday
  split at hday
  · split at hday <;> omega
  · split at hday <;> omega

/-- The place of a day of an era: its century, the cycle in the century, the year in the cycle and
the day in the year. -/
structure EraPlace (dayOfEra century cycle year day : Int) : Prop where
  sum : dayOfEra = 36524 * century + 1461 * cycle + 365 * year + day
  centuries : 0 ≤ century ∧ century ≤ 3
  cycles : 0 ≤ cycle ∧ cycle ≤ 24
  years : 0 ≤ year ∧ year ≤ 3
  days : 0 ≤ day ∧ day ≤ 365
  leapDay : day = 365 → year = 3 ∧ (cycle = 24 → century = 3)

theorem exists_eraPlace {dayOfEra : Int} (hlow : 0 ≤ dayOfEra) (hhigh : dayOfEra < 146097) :
    ∃ century cycle year day, EraPlace dayOfEra century cycle year day := by
  -- The last part of each cut may be a day longer than the others, and is the fourth at most.
  obtain ⟨century, hcentury⟩ : ∃ c, c = min (dayOfEra / 36524) 3 := ⟨_, rfl⟩
  obtain ⟨cycle, hcycle⟩ : ∃ q, q = (dayOfEra - 36524 * century) / 1461 := ⟨_, rfl⟩
  obtain ⟨year, hyear⟩ : ∃ y, y = min ((dayOfEra - 36524 * century - 1461 * cycle) / 365) 3 :=
    ⟨_, rfl⟩
  refine ⟨century, cycle, year, dayOfEra - 36524 * century - 1461 * cycle - 365 * year, ?_⟩
  constructor <;> omega

variable {dayOfEra century cycle year day : Int}

theorem EraPlace.yearOfEra_eq (h : EraPlace dayOfEra century cycle year day) :
    (dayOfEra - dayOfEra / 1460 + dayOfEra / 36524 - dayOfEra / 146096) / 365 = 100 * century +
      4 * cycle + year := by
  obtain ⟨heq, hcentury, hcycle, hyear, hday, hleap⟩ := h
  have hcenturies : dayOfEra / 36524 - dayOfEra / 146096 = century := by
    -- The last day of the era would begin a fifth century.
    have hlast : 1461 * cycle + 365 * year + day ≤ 36523 ∨ dayOfEra = 146096 := by omega
    rcases hlast with h | h
    · have hfront : dayOfEra / 36524 = century := by omega
      have hnone : dayOfEra / 146096 = 0 := by omega
      omega
    · omega
  by_cases hmore : 24 * century + cycle + 365 * year + day < 1460
  · have hcycles : dayOfEra / 1460 = 25 * century + cycle := by omega
    omega
  · have hcycles : dayOfEra / 1460 = 25 * century + cycle + 1 := by omega
    omega

theorem EraPlace.daysBefore_eq (h : EraPlace dayOfEra century cycle year day) {yearOfEra : Int}
    (hyear : yearOfEra = 100 * century + 4 * cycle + year) :
    365 * yearOfEra + yearOfEra / 4 - yearOfEra / 100 = dayOfEra - day := by
  obtain ⟨heq, hcentury, hcycle, hyear', -, -⟩ := h
  have hfourths : yearOfEra / 4 = 25 * century + cycle := by omega
  have hhundredths : yearOfEra / 100 = century := by omega
  omega

def ofMarch (year dayOfYear : Int) : CivilDate :=
  let monthFromMarch := (5 * dayOfYear + 2) / 153
  let day := dayOfYear - (153 * monthFromMarch + 2) / 5 + 1
  let month := if monthFromMarch < 10 then monthFromMarch + 3 else monthFromMarch - 9
  { year := if month ≤ 2 then year + 1 else year, month := month.toNat, day := day.toNat }

def daysBefore (year : Int) : Int := 365 * year + year / 4 - year / 100 + year / 400

theorem daysBefore_eq (year : Int) :
    year / 400 * 146097 + (year % 400 * 365 + year % 400 / 4 - year % 400 / 100) =
      daysBefore year := by
  obtain ⟨era, hera⟩ : ∃ e, e = year / 400 := ⟨_, rfl⟩
  obtain ⟨yearOfEra, hyearOfEra⟩ : ∃ y, y = year % 400 := ⟨_, rfl⟩
  rw [daysBefore, ← hera, ← hyearOfEra]
  have hfourths : year / 4 = era * 100 + yearOfEra / 4 := by omega
  have hhundredths : year / 100 = era * 4 + yearOfEra / 100 := by omega
  omega

theorem daysBefore_add_le {year later : Int} (h : year ≤ later) :
    daysBefore year + 365 * (later - year) ≤ daysBefore later := by
  have hfourths : year / 4 ≤ later / 4 := Int.ediv_le_ediv (by decide) h
  have hfourhundredths : year / 400 ≤ later / 400 := Int.ediv_le_ediv (by decide) h
  rw [daysBefore, daysBefore]
  omega

theorem toDays_ofMarch (year : Int) {dayOfYear : Int} (h : 0 ≤ dayOfYear ∧ dayOfYear ≤ 365) :
    (ofMarch year dayOfYear).toDays = daysBefore year + dayOfYear - 719468 := by
  obtain ⟨month, hmonth⟩ : ∃ m, m = (5 * dayOfYear + 2) / 153 := ⟨_, rfl⟩
  simp only [ofMarch, toDays, ← hmonth, ← daysBefore_eq]
  by_cases hspring : month < 10
  · have hnot : ¬ month + 3 ≤ 2 := by omega
    have hnot' : ¬ (month + 3).toNat ≤ 2 := by omega
    simp only [if_pos hspring, if_neg hnot, if_neg hnot']
    omega
  · have hlate : month - 9 ≤ 2 := by omega
    have hlate' : (month - 9).toNat ≤ 2 := by omega
    simp only [if_neg hspring, if_pos hlate, if_pos hlate', Int.add_sub_cancel]
    omega

theorem year_ofMarch (year : Int) {dayOfYear : Int} (h : 0 ≤ dayOfYear ∧ dayOfYear ≤ 365) :
    (ofMarch year dayOfYear).year = if dayOfYear < 306 then year else year + 1 := by
  obtain ⟨month, hmonth⟩ : ∃ m, m = (5 * dayOfYear + 2) / 153 := ⟨_, rfl⟩
  simp only [ofMarch, ← hmonth]
  by_cases hspring : month < 10
  · rw [if_pos hspring, if_neg (by omega), if_pos (by omega)]
  · rw [if_neg hspring, if_pos (by omega), if_neg (by omega)]

theorem valid_ofMarch {year dayOfYear : Int} (h : 0 ≤ dayOfYear ∧ dayOfYear ≤ 365)
    (hleap : dayOfYear = 365 → isLeapYear (year + 1) = true) : (ofMarch year dayOfYear).Valid := by
  obtain ⟨month, hmonth⟩ : ∃ m, m = (5 * dayOfYear + 2) / 153 := ⟨_, rfl⟩
  simp only [ofMarch, Valid, ← hmonth]
  by_cases hspring : month < 10
  · have hnot : ¬ month + 3 ≤ 2 := by omega
    simp only [if_pos hspring, if_neg hnot, daysInMonth]
    split
    · omega
    · split <;> omega
  · have hlate : month - 9 ≤ 2 := by omega
    simp only [if_neg hspring, if_pos hlate, daysInMonth]
    split
    · by_cases hlast : dayOfYear = 365
      · rw [if_pos (hleap hlast)]
        omega
      · split <;> omega
    · split <;> omega

theorem exists_ofMarch (days : Int) :
    ∃ year dayOfYear, ofDays days = ofMarch year dayOfYear ∧ (0 ≤ dayOfYear ∧ dayOfYear ≤ 365) ∧
      (dayOfYear = 365 → isLeapYear (year + 1) = true) ∧
      days = daysBefore year + dayOfYear - 719468 := by
  obtain ⟨dayOfEra, hdayOfEra⟩ : ∃ d, d = (days + 719468) % 146097 := ⟨_, rfl⟩
  obtain ⟨era, hera⟩ : ∃ e, e = (days + 719468) / 146097 := ⟨_, rfl⟩
  have hlow : 0 ≤ dayOfEra := by omega
  have hhigh : dayOfEra < 146097 := by omega
  obtain ⟨century, cycle, year, day, hplace⟩ := exists_eraPlace hlow hhigh
  obtain ⟨yearOfEra, hyearOfEra⟩ : ∃ y, y = 100 * century + 4 * cycle + year := ⟨_, rfl⟩
  have hbefore := hplace.daysBefore_eq hyearOfEra
  have hday : dayOfEra - (365 * yearOfEra + yearOfEra / 4 - yearOfEra / 100) = day := by omega
  have hbounds : 0 ≤ yearOfEra ∧ yearOfEra < 400 := by
    have := hplace.centuries
    have := hplace.cycles
    have := hplace.years
    omega
  have hquotient : (yearOfEra + era * 400) / 400 = era := by omega
  have hremainder : (yearOfEra + era * 400) % 400 = yearOfEra := by omega
  refine ⟨yearOfEra + era * 400, day, ?_, hplace.days, fun hlast => ?_, ?_⟩
  · simp only [ofDays, ← hdayOfEra, ← hera, hplace.yearOfEra_eq, ← hyearOfEra, hday]
    rfl
  · obtain ⟨hyear, hcycle⟩ := hplace.leapDay hlast
    simp only [isLeapYear, Bool.and_eq_true, Bool.or_eq_true, beq_iff_eq, bne_iff_ne]
    have := hplace.cycles
    omega
  · rw [← daysBefore_eq, hquotient, hremainder]
    omega

theorem toDays_ofDays (days : Int) : (ofDays days).toDays = days := by
  obtain ⟨year, dayOfYear, hdate, hbounds, -, hdays⟩ := exists_ofMarch days
  rw [hdate, toDays_ofMarch year hbounds, ← hdays]

theorem valid_ofDays (days : Int) : (ofDays days).Valid := by
  obtain ⟨year, dayOfYear, hdate, hbounds, hleap, -⟩ := exists_ofMarch days
  rw [hdate]
  exact valid_ofMarch hbounds hleap

theorem year_ofDays_bounds {days first last : Int} (hfirst : toDays ⟨first, 1, 1⟩ ≤ days)
    (hlast : days ≤ toDays ⟨last, 12, 31⟩) :
    first ≤ (ofDays days).year ∧ (ofDays days).year ≤ last := by
  obtain ⟨year, dayOfYear, hdate, hbounds, hleap, hdays⟩ := exists_ofMarch days
  have hstart : ofMarch (first - 1) 306 = ⟨first, 1, 1⟩ :=
    congrArg (fun year => CivilDate.mk year 1 1) (Int.sub_add_cancel first 1)
  have hstop : ofMarch last 305 = ⟨last, 12, 31⟩ := rfl
  rw [← hstart, toDays_ofMarch _ (by decide)] at hfirst
  rw [← hstop, toDays_ofMarch _ (by decide)] at hlast
  rw [hdate, year_ofMarch _ hbounds]
  constructor
  · refine Int.not_lt.mp fun hearly => ?_
    have hmore : year ≤ first - 1 → daysBefore year + 365 * (first - 1 - year) ≤
        daysBefore (first - 1) :=
      daysBefore_add_le
    split at hearly <;> omega
  · refine Int.not_lt.mp fun hlate => ?_
    have hmore : last ≤ year → daysBefore last + 365 * (year - last) ≤ daysBefore year :=
      daysBefore_add_le
    split at hlate <;> omega

end EventTickets.Time.CivilDate
