import CloudCensus.Time.Calendar

/-!
Counting days and finding dates are inverse to each other.

The year of a day within its era is guessed by a division that corrects for the leap days before it.
What is needed of the guess is that the day lies in that year: not before its first day, and no more than
365 days after it.
-/

namespace CloudCensus.Date

def yearOfEra (dayOfEra : Int) : Int :=
  (dayOfEra - dayOfEra.fdiv 1460 + dayOfEra.fdiv 36524 - dayOfEra.fdiv 146096).fdiv 365

def daysBefore (yearOfEra : Int) : Int := 365 * yearOfEra + yearOfEra.fdiv 4 - yearOfEra.fdiv 100

/-- The month that a day of a year falls into, March being month 0. -/
def monthOf (dayOfYear : Int) : Int := (5 * dayOfYear + 2).fdiv 153

def monthStart (month : Int) : Int := (153 * month + 2).fdiv 5

def ofMarch (era year month day : Int) : Date :=
  let civil := if month < 10 then month + 3 else month - 9
  ⟨if civil ≤ 2 then year + era * 400 + 1 else year + era * 400, civil.toNat, day.toNat⟩

theorem ofDays_eq (days : Int) :
    let era := (days + 719468).fdiv 146097
    let dayOfEra := days + 719468 - era * 146097
    let dayOfYear := dayOfEra - daysBefore (yearOfEra dayOfEra)
    ofDays days =
      ofMarch era (yearOfEra dayOfEra) (monthOf dayOfYear)
        (dayOfYear - monthStart (monthOf dayOfYear) + 1) := rfl

section era

variable {dayOfEra : Int} (low : 0 ≤ dayOfEra) (high : dayOfEra < 146097)

include low high

theorem yearOfEra_mem : 0 ≤ yearOfEra dayOfEra ∧ yearOfEra dayOfEra < 400 := by
  simp (disch := decide) only [yearOfEra, Int.fdiv_eq_ediv_of_nonneg]
  omega

/-- The centuries before the day and before its year are few, and with each choice of them the rest is
linear. -/
theorem dayOfYear_mem :
    0 ≤ dayOfEra - daysBefore (yearOfEra dayOfEra) ∧
      dayOfEra - daysBefore (yearOfEra dayOfEra) ≤ 365 := by
  have inEra := yearOfEra_mem low high
  simp (disch := decide) only [daysBefore, yearOfEra, Int.fdiv_eq_ediv_of_nonneg] at *
  generalize isYear : (dayOfEra - dayOfEra / 1460 + dayOfEra / 36524 - dayOfEra / 146096) / 365 = year at *
  have byYear : year / 100 = 0 ∨ year / 100 = 1 ∨ year / 100 = 2 ∨ year / 100 = 3 := by omega
  have byDay : dayOfEra / 36524 = 0 ∨ dayOfEra / 36524 = 1 ∨ dayOfEra / 36524 = 2 ∨
      dayOfEra / 36524 = 3 ∨ dayOfEra / 36524 = 4 := by
    omega
  rcases byYear with century | century | century | century <;>
    rcases byDay with past | past | past | past | past <;> omega

end era

theorem monthOf_mem {dayOfYear : Int} (low : 0 ≤ dayOfYear) (high : dayOfYear ≤ 365) :
    0 ≤ monthOf dayOfYear ∧ monthOf dayOfYear < 12 ∧
      1 ≤ dayOfYear - monthStart (monthOf dayOfYear) + 1 := by
  simp (disch := decide) only [monthOf, monthStart, Int.fdiv_eq_ediv_of_nonneg]
  omega

theorem toDays_ofMarch {era year month day : Int} (inEra : 0 ≤ year ∧ year < 400)
    (inYear : 0 ≤ month ∧ month < 12) (first : 1 ≤ day) :
    (ofMarch era year month day).toDays =
      era * 146097 + (daysBefore year + (monthStart month + day - 1)) - 719468 := by
  have eraOf : (year + era * 400).fdiv 400 = era := by
    rw [Int.fdiv_eq_ediv_of_nonneg _ (by decide)]
    omega
  have dayOf : (day.toNat : Int) = day := Int.toNat_of_nonneg (by omega)
  have yearOf : year + era * 400 - era * 400 = year := by omega
  by_cases early : month < 10
  · have late : ¬ month + 3 ≤ 2 := by omega
    have lateToo : ¬ (month + 3).toNat ≤ 2 := by omega
    have back : ((month + 3).toNat : Int) - 3 = month := by omega
    simp only [toDays, ofMarch, if_pos early, if_neg late, if_neg lateToo, eraOf, back, dayOf, yearOf,
      daysBefore, monthStart]
    omega
  · have soon : month - 9 ≤ 2 := by omega
    have soonToo : (month - 9).toNat ≤ 2 := by omega
    have back : ((month - 9).toNat : Int) + 9 = month := by omega
    have yearBack : year + era * 400 + 1 - 1 = year + era * 400 := by omega
    simp only [toDays, ofMarch, if_neg early, if_pos soon, if_pos soonToo, yearBack, eraOf, back, dayOf,
      yearOf, daysBefore, monthStart]
    omega

theorem toDays_ofDays (days : Int) : (ofDays days).toDays = days := by
  have bounds (n : Int) : 0 ≤ n - n.fdiv 146097 * 146097 ∧ n - n.fdiv 146097 * 146097 < 146097 := by
    rw [Int.fdiv_eq_ediv_of_nonneg _ (by decide)]
    omega
  obtain ⟨low, high⟩ := bounds (days + 719468)
  obtain ⟨begins, ends⟩ := dayOfYear_mem low high
  obtain ⟨march, february, first⟩ := monthOf_mem begins ends
  rw [ofDays_eq, toDays_ofMarch (yearOfEra_mem low high) ⟨march, february⟩ first]
  omega

example : ofDays 19782 = ⟨2024, 2, 29⟩ := by decide

end CloudCensus.Date
