import Mathlib.Data.Int.ConditionallyCompleteOrder
import Mathlib.Data.Nat.Cast.Order.Basic
import SpxSpark.Lib.Calendar

/-!
# Holidays — the days the exchange is closed

The default calendar knows weekends and the rule-based holidays, of the year of a day and of the two
years beside it, since an observed holiday may fall into the neighbouring year.
-/

namespace SpxSpark.MarketCalendar

open Lib Calendar

/-! ## Days of the week and rules for a date -/

/-- `date.weekday()`, Monday being 0; day 0 was a Thursday. -/
def weekday (day : Int) : Int := (day + 3) % 7

variable (year : Int)

def date (month day : Int) : Int := dayOfCivil ⟨year, month, day⟩

def yearOf (day : Int) : Int := (civilOfDay day).year

def nthWeekday (month weekday' occurrence : Int) : Int :=
  let first := date year month 1
  let offset := (weekday' - weekday first) % 7
  first + (offset + (occurrence - 1) * 7)

def lastWeekday (month weekday' : Int) : Int :=
  let firstNextMonth := if month = 12 then date (year + 1) 1 1 else date year (month + 1) 1
  let last := firstNextMonth - 1
  last - (weekday last - weekday') % 7

/-- Gregorian Easter Sunday using the Meeus/Jones/Butcher rule. -/
def easterSunday : Int :=
  let a := year % 19
  let b := year / 100
  let c := year % 100
  let d := b / 4
  let e := b % 4
  let f := (b + 8) / 25
  let g := (b - f + 1) / 3
  let h := (19 * a + b - d - g + 15) % 30
  let i := c / 4
  let k := c % 4
  let ell := (32 + 2 * e + 2 * i - h - k) % 7
  let m := (a + 11 * h + 22 * ell) / 451
  let month := (h + ell - 7 * m + 114) / 31
  let day := (h + ell - 7 * m + 114) % 31 + 1
  date year month day

/-- NYSE does not carry a Saturday New Year's closure back into the prior calendar year. -/
def observedNewYear : Int :=
  let newYear := date year 1 1
  if weekday newYear = 6 then newYear + 1 else newYear

def observedFixedHoliday (day : Int) : Int :=
  if weekday day = 5 then day - 1 else if weekday day = 6 then day + 1 else day

def holidaysForNominalYear : List Int :=
  [observedNewYear year, nthWeekday year 1 0 3, nthWeekday year 2 0 3, easterSunday year - 2,
    lastWeekday year 5 0, observedFixedHoliday (date year 7 4), nthWeekday year 9 0 1,
    nthWeekday year 11 3 4, observedFixedHoliday (date year 12 25)] ++
    if 2022 ≤ year then [observedFixedHoliday (date year 6 19)] else []

def holidaysAround : List Int :=
  [year - 1, year, year + 1].flatMap holidaysForNominalYear

def isTradingDay (day : Int) : Bool :=
  if 5 ≤ weekday day then false else !(holidaysAround (yearOf day)).contains day

/-! ## Which weekday a holiday is -/

theorem weekday_nthWeekday (month occurrence : Int) {target : Int} (h : 0 ≤ target)
    (h' : target < 7) : weekday (nthWeekday year month target occurrence) = target := by
  rw [nthWeekday, weekday, weekday]
  omega

theorem weekday_lastWeekday (month : Int) {target : Int} (h : 0 ≤ target) (h' : target < 7) :
    weekday (lastWeekday year month target) = target := by
  rw [lastWeekday, weekday, weekday]
  omega

theorem easter_offset {a h ell : Int} (ha : 0 ≤ a ∧ a < 19) (hh : 0 ≤ h ∧ h < 30)
    (hell : 0 ≤ ell ∧ ell < 7) : 0 ≤ h + ell - 7 * ((a + 11 * h + 22 * ell) / 451) ∧
      h + ell - 7 * ((a + 11 * h + 22 * ell) / 451) ≤ 35 := by
  omega

theorem date_spring {offset : Int} (h : 0 ≤ offset ∧ offset ≤ 35) :
    date year ((offset + 114) / 31) ((offset + 114) % 31 + 1) =
      daysBefore year + offset + 21 - marchEpoch := by
  have hmonth : (offset + 114) / 31 = 3 ∨ (offset + 114) / 31 = 4 := by omega
  rw [date, dayOfCivil]
  rcases hmonth with hmonth | hmonth
  · rw [hmonth]
    simp only [show ¬((3 : Int) ≤ 2) by decide, if_false]
    omega
  · rw [hmonth]
    simp only [show ¬((4 : Int) ≤ 2) by decide, if_false]
    omega

theorem easter_weekday {year a b c d e g h i k ell m : Int} (ha : a = year % 19)
    (hb : b = year / 100) (hc : c = year % 100) (hd : d = b / 4) (he : e = b % 4)
    (hh : h = (19 * a + b - d - g + 15) % 30) (hi : i = c / 4) (hk : k = c % 4)
    (hell : ell = (32 + 2 * e + 2 * i - h - k) % 7) (hm : m = (a + 11 * h + 22 * ell) / 451) :
    weekday (date year ((h + ell - 7 * m + 114) / 31) ((h + ell - 7 * m + 114) % 31 + 1)) = 6 := by
  have hoffset : 0 ≤ h + ell - 7 * m ∧ h + ell - 7 * m ≤ 35 := by
    rw [hm]
    exact easter_offset (by omega) (by omega) (by omega)
  rw [date_spring year hoffset, weekday]
  have hfour : year / 4 = 25 * b + i := by omega
  have hhundreds : year / 400 = d := by omega
  have hdays : daysBefore year = 365 * (100 * b + c) + (25 * b + i) - b + d := by
    rw [daysBefore, hfour, hhundreds, ← hb]
    omega
  rw [hdays, marchEpoch]
  omega

/-- **Easter is a Sunday in every year.** -/
theorem weekday_easterSunday : weekday (easterSunday year) = 6 :=
  easter_weekday rfl rfl rfl rfl rfl rfl rfl rfl rfl rfl

/-! ## Two days in a row -/

/-- The first of January, the nineteenth of June, Independence Day or Christmas. -/
def FixedHoliday (day : Int) : Prop :=
  ∃ year, day = date year 1 1 ∨ day = date year 6 19 ∨ day = date year 7 4 ∨ day = date year 12 25

theorem observedFixedHoliday_midweek {day observed : Int} (h : observed = observedFixedHoliday day)
    (hweekday : weekday observed = 1 ∨ weekday observed = 2) : observed = day := by
  rw [observedFixedHoliday] at h
  unfold weekday at h hweekday
  split at h
  · omega
  · split at h <;> omega

theorem fixed_of_midweek {day year : Int} (h : day ∈ holidaysForNominalYear year)
    (hweekday : weekday day = 1 ∨ weekday day = 2) : FixedHoliday day := by
  have hnth : ∀ (month occurrence : Int) {target : Int}, 0 ≤ target → target < 7 →
      target ≠ 1 → target ≠ 2 → day ≠ nthWeekday year month target occurrence := by
    intro month occurrence target hlow hhigh hone htwo heq
    rw [heq, weekday_nthWeekday _ _ _ hlow hhigh] at hweekday
    omega
  rw [holidaysForNominalYear, List.mem_append] at h
  rcases h with h | h
  · simp only [List.mem_cons, List.not_mem_nil, or_false] at h
    rcases h with h | h | h | h | h | h | h | h | h
    · refine ⟨year, .inl ?_⟩
      rw [observedNewYear] at h
      unfold weekday at h hweekday
      split at h <;> omega
    · exact absurd h (hnth 1 3 (by decide) (by decide) (by decide) (by decide))
    · exact absurd h (hnth 2 3 (by decide) (by decide) (by decide) (by decide))
    · have heaster := weekday_easterSunday year
      unfold weekday at heaster hweekday
      omega
    · have hlast : weekday (lastWeekday year 5 0) = 0 :=
        weekday_lastWeekday year 5 (by decide) (by decide)
      rw [← h] at hlast
      omega
    · exact ⟨year, .inr (.inr (.inl (observedFixedHoliday_midweek h hweekday)))⟩
    · exact absurd h (hnth 9 1 (by decide) (by decide) (by decide) (by decide))
    · exact absurd h (hnth 11 4 (by decide) (by decide) (by decide) (by decide))
    · exact ⟨year, .inr (.inr (.inr (observedFixedHoliday_midweek h hweekday)))⟩
  · split at h
    · rw [List.mem_singleton] at h
      exact ⟨year, .inr (.inl (observedFixedHoliday_midweek h hweekday))⟩
    · cases h

theorem FixedHoliday.offset {day : Int} (h : FixedHoliday day) :
    ∃ march offset, day = daysBefore march + offset - marchEpoch ∧
      (offset = 306 ∨ offset = 110 ∨ offset = 125 ∨ offset = 299) := by
  obtain ⟨year, h | h | h | h⟩ := h
  · refine ⟨year - 1, 306, ?_, by omega⟩
    simp [h, date, dayOfCivil]
  · refine ⟨year, 110, ?_, by omega⟩
    simp [h, date, dayOfCivil]
    omega
  · refine ⟨year, 125, ?_, by omega⟩
    simp [h, date, dayOfCivil]
    omega
  · refine ⟨year, 299, ?_, by omega⟩
    simp [h, date, dayOfCivil]
    omega

theorem daysBefore_lt {a b : Int} (h : a < b) : daysBefore a + 365 ≤ daysBefore b := by
  rw [daysBefore, daysBefore]
  omega

theorem FixedHoliday.not_next {day : Int} (h : FixedHoliday day) : ¬FixedHoliday (day + 1) := by
  intro hnext
  obtain ⟨march, offset, hday, hoffset⟩ := h.offset
  obtain ⟨march', offset', hday', hoffset'⟩ := hnext.offset
  rcases lt_trichotomy march march' with hlt | heq | hgt
  · have hdays := daysBefore_lt hlt
    omega
  · subst heq
    omega
  · have hdays := daysBefore_lt hgt
    omega

theorem fixed_of_closed {day : Int} (hweekday : weekday day = 1 ∨ weekday day = 2)
    (hclosed : isTradingDay day = false) : FixedHoliday day := by
  rw [isTradingDay, if_neg (by omega), Bool.not_eq_false', List.contains_iff_mem, holidaysAround,
    List.mem_flatMap] at hclosed
  obtain ⟨year, -, hmem⟩ := hclosed
  exact fixed_of_midweek hmem hweekday

/-- **Of a Tuesday and the day after it, one is a trading day.** -/
theorem tuesday_or_wednesday {day : Int} (h : weekday day = 1) :
    isTradingDay day = true ∨ isTradingDay (day + 1) = true := by
  by_contra hclosed
  rw [not_or, Bool.not_eq_true, Bool.not_eq_true] at hclosed
  have hnext : weekday (day + 1) = 1 ∨ weekday (day + 1) = 2 := by
    unfold weekday at h ⊢
    omega
  exact (fixed_of_closed (.inl h) hclosed.1).not_next (fixed_of_closed hnext hclosed.2)

theorem exists_trading_day (day : Int) :
    ∃ offset : ℕ, offset < 8 ∧ isTradingDay (day + offset) = true := by
  obtain ⟨ahead, hahead, htuesday⟩ : ∃ ahead : ℕ, ahead < 7 ∧ weekday (day + ahead) = 1 := by
    refine ⟨((1 - weekday day) % 7).toNat, ?_, ?_⟩ <;> unfold weekday <;> omega
  rcases tuesday_or_wednesday htuesday with htrading | htrading
  · exact ⟨ahead, by omega, htrading⟩
  · refine ⟨ahead + 1, by omega, ?_⟩
    rw [Nat.cast_add, ← add_assoc]
    exact htrading

end SpxSpark.MarketCalendar
