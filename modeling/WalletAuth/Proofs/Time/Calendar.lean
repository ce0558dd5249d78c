import Mathlib
import WalletAuth.Time.Instant

/-!
# WalletAuth.Proofs.Time.Calendar — day counts and calendar dates determine each other

`Civil.civilFromDays` and `Civil.daysFromCivil` count days in eras of 400 years (146097 days)
whose years start on 1 March, so that a leap day is the last day of its year. Inside an era a
day lies in one of four centuries, one of 25 four-year blocks of its century and one of four
years of its block (`dayOfEra_split`); the year formula of `civilFromDays` finds that year
(`yearOfEra_split`), so the day of the year it leaves is within the year's length, and is the
366th only in a year that ends in a 29 February (`yearOfEra_inEra`). From there

* `civilFromDays` gives a date of the calendar (`civilFromDays_valid`),
* `daysFromCivil` counts that date back to the same day (`daysFromCivil_civilFromDays`), and
* reading an instant on the calendar in UTC and back gives the instant (`toInstant_ofInstant`).
-/

namespace WalletAuth
namespace Civil

/-! ## Years of an era -/

/-- The year of its era that a day of the era falls in, by the formula of `civilFromDays`. -/
def yearOfEra (doe : Int) : Int := (doe - doe / 1460 + doe / 36524 - doe / 146096) / 365

/-- Days from the start of an era to the start of its year `y < 400`. -/
def yearStart (y : Int) : Int := 365 * y + y / 4 - y / 100

/-- Day `doy` of year `yoe` of an era: a year of the era, and a day within that year's length,
the 366th only when the year ends in a 29 February. -/
structure InEra (yoe doy : Int) : Prop where
  year_nonneg : 0 ≤ yoe
  year_le : yoe ≤ 399
  day_nonneg : 0 ≤ doy
  day_le : doy ≤ 365
  leap_of_last : doy = 365 → isLeapYear (yoe + 1) = true

/-- A day of an era by century `c`, four-year block `j` of the century, year `i` of the block
and day `t` of the year. A year has a 366th day only as the last of its block, and the last
block of a century has one only in the era's last century. -/
theorem dayOfEra_split {doe : Int} (h0 : 0 ≤ doe) (h1 : doe ≤ 146096) :
    ∃ c j i t : Int, 0 ≤ c ∧ c ≤ 3 ∧ 0 ≤ j ∧ j ≤ 24 ∧ 0 ≤ i ∧ i ≤ 3 ∧ 0 ≤ t ∧ t ≤ 365 ∧
      (t = 365 → i = 3 ∧ (j = 24 → c = 3)) ∧ doe = 36524 * c + 1461 * j + 365 * i + t := by
  -- the era's last day, a 29 February, is counted in the third century
  set c := doe / 36524 - doe / 146096
  set r := doe - 36524 * c with hr
  have hr0 : 0 ≤ r ∧ r ≤ 36524 := by omega
  have hr1 : r = 36524 → doe = 146096 := by omega
  set j := r / 1461 with hj
  set s := r - 1461 * j with hs
  have hs0 : 0 ≤ s ∧ s ≤ 1460 := by omega
  -- likewise the block's last day is counted in its third year
  set i := s / 365 - s / 1460 with hi
  refine ⟨c, j, i, s - 365 * i, by omega, by omega, by omega, by omega, by omega, by omega,
    by omega, by omega, fun h => ?_, by omega⟩
  omega

section Split

variable {c j i t : Int}

/-- The year formula of `civilFromDays` finds the year of a split day: removing the leap days
before it leaves fewer than 365 days past the year's start. -/
theorem yearOfEra_split (hc : 0 ≤ c ∧ c ≤ 3) (hj : 0 ≤ j ∧ j ≤ 24) (hi : 0 ≤ i ∧ i ≤ 3)
    (ht : 0 ≤ t ∧ t ≤ 365) (hlast : t = 365 → i = 3 ∧ (j = 24 → c = 3)) :
    yearOfEra (36524 * c + 1461 * j + 365 * i + t) = 100 * c + 4 * j + i := by
  unfold yearOfEra
  set doe := 36524 * c + 1461 * j + 365 * i + t
  -- each quotient is the count of whole blocks, centuries and eras, and a carry of at most one
  have h1460 : doe / 1460 = 25 * c + j + (24 * c + j + 365 * i + t) / 1460 := by omega
  have hcarry : (24 * c + j + 365 * i + t) / 1460 ≤ 1 := by omega
  have hcarry1 : (24 * c + j + 365 * i + t) / 1460 = 1 → i = 3 ∧ 269 ≤ t := by omega
  have h36524 : doe / 36524 = c + (if doe = 146096 then 1 else 0) := by split <;> omega
  have h146096 : doe / 146096 = (if doe = 146096 then 1 else 0) := by split <;> omega
  rw [h1460, h36524, h146096]
  split <;> omega

theorem yearStart_split (hj : 0 ≤ j ∧ j ≤ 24) (hi : 0 ≤ i ∧ i ≤ 3) :
    yearStart (100 * c + 4 * j + i) = 36524 * c + 1461 * j + 365 * i := by
  unfold yearStart
  omega

end Split

theorem isLeapYear_add_mul_400 (y k : Int) : isLeapYear (y + 400 * k) = isLeapYear y := by
  have h4 : (y + 400 * k) % 4 = y % 4 := by omega
  have h100 : (y + 400 * k) % 100 = y % 100 := by omega
  have h400 : (y + 400 * k) % 400 = y % 400 := by omega
  simp only [isLeapYear, h4, h100, h400]

/-- The day of the era a day count falls on lies in a year of the era. -/
theorem yearOfEra_inEra {doe : Int} (h0 : 0 ≤ doe) (h1 : doe ≤ 146096) :
    InEra (yearOfEra doe) (doe - yearStart (yearOfEra doe)) := by
  obtain ⟨c, j, i, t, hc0, hc3, hj0, hj24, hi0, hi3, ht0, ht365, hlast, rfl⟩ := dayOfEra_split h0 h1
  rw [yearOfEra_split ⟨hc0, hc3⟩ ⟨hj0, hj24⟩ ⟨hi0, hi3⟩ ⟨ht0, ht365⟩ hlast,
    yearStart_split ⟨hj0, hj24⟩ ⟨hi0, hi3⟩]
  refine ⟨by omega, by omega, by omega, by omega, fun h => ?_⟩
  -- the 366th day is the last of a block, which ends in a leap year
  obtain ⟨rfl, hcent⟩ := hlast (by omega)
  simp only [isLeapYear, Bool.or_eq_true, Bool.and_eq_true, beq_iff_eq, bne_iff_ne, ne_eq]
  omega

/-! ## Months of a year -/

/-- The month of a year starting on 1 March that a day of it falls in: 0 is March, 11 is
February. -/
def monthOfYear (doy : Int) : Int := (5 * doy + 2) / 153

/-- Days from 1 March to the first of month `mp` (0 is March). -/
def monthStart (mp : Int) : Int := (153 * mp + 2) / 5

theorem monthOfYear_bounds {doy : Int} (h0 : 0 ≤ doy) (h1 : doy ≤ 365) :
    0 ≤ monthOfYear doy ∧ monthOfYear doy ≤ 11 ∧ monthStart (monthOfYear doy) ≤ doy ∧
      doy < monthStart (monthOfYear doy + 1) := by
  unfold monthOfYear monthStart
  omega

/-- The month of the year as the calendar numbers it. -/
def calendarMonth (mp : Int) : Int := if mp < 10 then mp + 3 else mp - 9

theorem calendarMonth_bounds {mp : Int} (h0 : 0 ≤ mp) (h11 : mp ≤ 11) :
    1 ≤ calendarMonth mp ∧ calendarMonth mp ≤ 12 := by
  unfold calendarMonth
  split <;> omega

theorem daysInMonth_le (y : Int) (m : Nat) : daysInMonth y m ≤ 31 := by
  unfold daysInMonth
  split
  · split <;> omega
  all_goals omega

/-- From March to January each month is as long as the gap between its first day and the
next month's. -/
theorem daysInMonth_calendarMonth {mp : Int} (h0 : 0 ≤ mp) (h10 : mp ≤ 10) (y : Int) :
    (daysInMonth y (calendarMonth mp).toNat : Int) = monthStart (mp + 1) - monthStart mp := by
  interval_cases mp <;> rfl

/-- A day of a year of the era lies within its month; February's 29th is the year's 366th
day, so it falls in a leap year. -/
theorem day_le_daysInMonth {doy y : Int} (h0 : 0 ≤ doy) (h1 : doy ≤ 365)
    (hleap : doy = 365 → isLeapYear y = true) :
    doy - monthStart (monthOfYear doy) + 1 ≤ daysInMonth y (calendarMonth (monthOfYear doy)).toNat := by
  obtain ⟨hm0, hm11, hstart, hnext⟩ := monthOfYear_bounds h0 h1
  by_cases hfeb : monthOfYear doy = 11
  · -- February: 28 days, 29 in a leap year
    rw [hfeb] at hstart ⊢
    have hmonth : (calendarMonth 11).toNat = 2 := by decide
    have hs : monthStart 11 = 337 := by decide
    rw [hmonth, hs]
    simp only [daysInMonth]
    by_cases h : doy = 365
    · rw [if_pos (hleap h)]
      omega
    · split <;> omega
  · rw [daysInMonth_calendarMonth hm0 (by omega) y]
    omega

/-! ## Dates and day counts -/

/-- `civilFromDays` in the words of this module: the era and the day of the era, the year of
the era and the day of that year, then the month and the day of the month. -/
theorem civilFromDays_eq (z : Int) :
    civilFromDays z =
      let era := (z + 719468) / 146097
      let doe := z + 719468 - era * 146097
      let doy := doe - yearStart (yearOfEra doe)
      let mp := monthOfYear doy
      (if calendarMonth mp ≤ 2 then yearOfEra doe + era * 400 + 1 else yearOfEra doe + era * 400,
        (calendarMonth mp).toNat, (doy - monthStart mp + 1).toNat) := rfl

/-- `civilFromDays` gives a date of the calendar. -/
theorem civilFromDays_valid {z y : Int} {m d : Nat} (h : civilFromDays z = (y, m, d)) :
    1 ≤ m ∧ m ≤ 12 ∧ 1 ≤ d ∧ d ≤ daysInMonth y m := by
  rw [civilFromDays_eq] at h
  simp only [Prod.mk.injEq] at h
  obtain ⟨hy, hm, hd⟩ := h
  set era := (z + 719468) / 146097
  set doe := z + 719468 - era * 146097
  have hera := yearOfEra_inEra (show 0 ≤ doe by omega) (show doe ≤ 146096 by omega)
  set yoe := yearOfEra doe
  set doy := doe - yearStart yoe
  obtain ⟨hm0, hm11, hstart, hnext⟩ := monthOfYear_bounds hera.day_nonneg hera.day_le
  -- the 366th day falls in February, whose year is the one after the era's year
  have hleap : doy = 365 → isLeapYear y = true := by
    intro h365
    have hfeb : calendarMonth (monthOfYear doy) = 2 := by rw [h365]; rfl
    rw [← hy, if_pos (by omega), add_right_comm, mul_comm, isLeapYear_add_mul_400]
    exact hera.leap_of_last h365
  have hday := day_le_daysInMonth hera.day_nonneg hera.day_le hleap
  have hcm := calendarMonth_bounds hm0 hm11
  subst hm hd
  omega

/-- `daysFromCivil` in the words of this module, once the year (moved back by one for January
and February) is split into its era and year of the era, and the month is counted from March. -/
theorem daysFromCivil_eq_of {y : Int} {m d : Nat} {era yoe mp : Int}
    (hy : (if m ≤ 2 then y - 1 else y) = yoe + era * 400) (hyoe : 0 ≤ yoe ∧ yoe ≤ 399)
    (hmp : (if m > 2 then (m : Int) - 3 else m + 9) = mp) :
    daysFromCivil y m d = era * 146097 + yearStart yoe + monthStart mp + d - 1 - 719468 := by
  dsimp only [daysFromCivil]
  rw [hy, hmp]
  have hera : (yoe + era * 400) / 400 = era := by omega
  have hyoe' : yoe + era * 400 - era * 400 = yoe := by omega
  rw [hera, hyoe']
  unfold yearStart monthStart
  ring

/-- `daysFromCivil` counts the date `civilFromDays` gives back to the same day. -/
theorem daysFromCivil_civilFromDays {z y : Int} {m d : Nat} (h : civilFromDays z = (y, m, d)) :
    daysFromCivil y m d = z := by
  rw [civilFromDays_eq] at h
  simp only [Prod.mk.injEq] at h
  obtain ⟨hy, hm, hd⟩ := h
  set era := (z + 719468) / 146097
  set doe := z + 719468 - era * 146097
  have hera := yearOfEra_inEra (show 0 ≤ doe by omega) (show doe ≤ 146096 by omega)
  set yoe := yearOfEra doe
  set doy := doe - yearStart yoe
  obtain ⟨hm0, hm11, hstart, hnext⟩ := monthOfYear_bounds hera.day_nonneg hera.day_le
  set mp := monthOfYear doy
  have hcm : (mp < 10 ∧ calendarMonth mp = mp + 3) ∨ (10 ≤ mp ∧ calendarMonth mp = mp - 9) := by
    unfold calendarMonth
    split <;> omega
  subst hy hm hd
  -- January and February count in the year before, as they close the era's year
  have hshift : (if (calendarMonth mp).toNat ≤ 2 then
      (if calendarMonth mp ≤ 2 then yoe + era * 400 + 1 else yoe + era * 400) - 1
      else if calendarMonth mp ≤ 2 then yoe + era * 400 + 1 else yoe + era * 400) =
      yoe + era * 400 := by
    split_ifs <;> omega
  have hmonth : (if (calendarMonth mp).toNat > 2 then ((calendarMonth mp).toNat : Int) - 3
      else (calendarMonth mp).toNat + 9) = mp := by
    split_ifs <;> omega
  rw [daysFromCivil_eq_of hshift ⟨hera.year_nonneg, hera.year_le⟩ hmonth]
  omega

/-! ## Instants -/

theorem ofInstant_eq {t : Instant} {y : Int} {m d : Nat}
    (h : civilFromDays (t.secs / 86400) = (y, m, d)) :
    ofInstant t = ⟨y, m, d, (t.secs % 86400).toNat / 3600, (t.secs % 86400).toNat % 3600 / 60,
      (t.secs % 86400).toNat % 60, t.nanos⟩ := by
  unfold ofInstant
  rw [h]

/-- The calendar reading of an instant names a date and a time of day; its second is the
instant's second of the minute. -/
theorem ofInstant_valid (t : Instant) :
    let c := ofInstant t
    1 ≤ c.month ∧ c.month ≤ 12 ∧ 1 ≤ c.day ∧ c.day ≤ daysInMonth c.year c.month ∧
      c.hour ≤ 23 ∧ c.minute ≤ 59 ∧ (c.second : Int) = t.secs % 60 ∧ c.nanos = t.nanos := by
  rcases hc : civilFromDays (t.secs / 86400) with ⟨y, m, d⟩
  rw [ofInstant_eq hc]
  obtain ⟨hm1, hm12, hd1, hdm⟩ := civilFromDays_valid hc
  dsimp only
  exact ⟨hm1, hm12, hd1, hdm, by omega, by omega, by omega, rfl⟩

/-- Reading an instant on the calendar in UTC and back gives the instant. -/
theorem toInstant_ofInstant (t : Instant) : (ofInstant t).toInstant 0 = t := by
  rcases hc : civilFromDays (t.secs / 86400) with ⟨y, m, d⟩
  rw [ofInstant_eq hc]
  unfold toInstant
  dsimp only
  rw [daysFromCivil_civilFromDays hc]
  obtain ⟨s, n⟩ := t
  rw [Instant.mk.injEq]
  dsimp only
  exact ⟨by omega, rfl⟩

end Civil
end WalletAuth
