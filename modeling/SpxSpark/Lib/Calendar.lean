import Mathlib.Algebra.GroupWithZero.Nat
import Mathlib.Data.List.Basic
import Mathlib.Data.List.Induction

/-!
# Calendar — days of the proleptic Gregorian calendar and how they are written

A day is a number, day 0 being 1970-01-01. `civilOfDay` counts from a first of March on, where every
cycle of years ends with its leap day; `dayOfCivil` undoes it, so a triple is the date of a day
exactly when `civilOfDay` gives it back.
-/

namespace SpxSpark.Lib.Calendar

open List

structure CivilDate where
  year : Int
  month : Int
  day : Int
  deriving DecidableEq

/-- Days from 0000-03-01 to 1970-01-01. -/
def marchEpoch : Int := 719468

/-- The year that begins on a first of March and the day of that year, from the day count. -/
def marchYear (count : Int) : Int × Int :=
  let dayOfEra := count % 146097
  let centuries := min (dayOfEra / 36524) 3
  let dayOfCentury := dayOfEra - centuries * 36524
  let leaps := dayOfCentury / 1461
  let dayOfLeap := dayOfCentury - leaps * 1461
  let years := min (dayOfLeap / 365) 3
  (count / 146097 * 400 + centuries * 100 + leaps * 4 + years, dayOfLeap - years * 365)

/-- Days before the first of March of a year. -/
def daysBefore (year : Int) : Int := 365 * year + year / 4 - year / 100 + year / 400

theorem marchYear_count {count dayOfEra centuries dayOfCentury leaps dayOfLeap years : Int}
    (hera : dayOfEra = count % 146097) (hcenturies : centuries = min (dayOfEra / 36524) 3)
    (hcentury : dayOfCentury = dayOfEra - centuries * 36524) (hleaps : leaps = dayOfCentury / 1461)
    (hleap : dayOfLeap = dayOfCentury - leaps * 1461) (hyears : years = min (dayOfLeap / 365) 3) :
    daysBefore (count / 146097 * 400 + centuries * 100 + leaps * 4 + years) +
        (dayOfLeap - years * 365) = count ∧
      0 ≤ dayOfLeap - years * 365 ∧ dayOfLeap - years * 365 ≤ 366 := by
  have hrange : 0 ≤ centuries ∧ centuries ≤ 3 ∧ 0 ≤ leaps ∧ leaps ≤ 24 ∧ 0 ≤ years ∧ years ≤ 3 := by
    omega
  have hfour : (count / 146097 * 400 + centuries * 100 + leaps * 4 + years) / 4 =
      count / 146097 * 100 + centuries * 25 + leaps := by omega
  have hhundred : (count / 146097 * 400 + centuries * 100 + leaps * 4 + years) / 100 =
      count / 146097 * 4 + centuries := by omega
  have hfourHundred : (count / 146097 * 400 + centuries * 100 + leaps * 4 + years) / 400 =
      count / 146097 := by omega
  unfold daysBefore
  rw [hfour, hhundred, hfourHundred]
  omega

theorem marchYear_spec (count : Int) :
    daysBefore (marchYear count).1 + (marchYear count).2 = count ∧ 0 ≤ (marchYear count).2 ∧
      (marchYear count).2 ≤ 366 :=
  marchYear_count rfl rfl rfl rfl rfl rfl

def civilOfDay (day : Int) : CivilDate :=
  let march := marchYear (day + marchEpoch)
  let months := (5 * march.2 + 2) / 153
  { year := if months < 10 then march.1 else march.1 + 1
    month := if months < 10 then months + 3 else months - 9
    day := march.2 - (153 * months + 2) / 5 + 1 }

def dayOfCivil (date : CivilDate) : Int :=
  let year := if date.month ≤ 2 then date.year - 1 else date.year
  let months := if date.month ≤ 2 then date.month + 9 else date.month - 3
  daysBefore year + (153 * months + 2) / 5 + date.day - 1 - marchEpoch

/-- **A day is recovered from its date.** -/
theorem dayOfCivil_civilOfDay (day : Int) : dayOfCivil (civilOfDay day) = day := by
  obtain ⟨hcount, hlow, hhigh⟩ := marchYear_spec (day + marchEpoch)
  unfold dayOfCivil civilOfDay
  dsimp only
  generalize marchYear (day + marchEpoch) = march at hcount hlow hhigh
  obtain ⟨months, hmonths⟩ : ∃ months, months = (5 * march.2 + 2) / 153 := ⟨_, rfl⟩
  simp only [← hmonths]
  have hmonth : 0 ≤ months ∧ months ≤ 11 := by omega
  by_cases hlate : months < 10
  · rw [if_pos hlate, if_pos hlate, if_neg (by omega), if_neg (by omega), Int.add_sub_cancel]
    omega
  · rw [if_neg hlate, if_neg hlate, if_pos (by omega), if_pos (by omega), Int.add_sub_cancel,
      Int.sub_add_cancel]
    omega

/-- The day of a triple that is a date. -/
def ofCivil (date : CivilDate) : Option Int :=
  if civilOfDay (dayOfCivil date) = date then some (dayOfCivil date) else none

theorem ofCivil_eq_some {date : CivilDate} {day : Int} :
    ofCivil date = some day ↔ civilOfDay day = date := by
  unfold ofCivil
  constructor
  · intro h
    split at h
    · rename_i hdate
      cases h
      exact hdate
    · cases h
  · rintro rfl
    rw [dayOfCivil_civilOfDay, if_pos rfl]

example : civilOfDay 0 = ⟨1970, 1, 1⟩ := by decide
example : ofCivil ⟨2024, 2, 29⟩ = some 19782 ∧ ofCivil ⟨2026, 2, 29⟩ = none := by decide

theorem civilOfDay_bounds (day : Int) : 1 ≤ (civilOfDay day).month ∧ (civilOfDay day).month ≤ 12 ∧
    1 ≤ (civilOfDay day).day ∧ (civilOfDay day).day ≤ 31 := by
  obtain ⟨-, hlow, hhigh⟩ := marchYear_spec (day + marchEpoch)
  unfold civilOfDay
  dsimp only
  omega

/-! ## Digits -/

/-- The last `width` decimal digits of a number. -/
def fixedDigits : Nat → Nat → List Char
  | 0, _ => []
  | width + 1, n => fixedDigits width (n / 10) ++ [Nat.digitChar (n % 10)]

def digitValue (c : Char) : Nat := c.toNat - 48

def digitsValue (digits : List Char) : Nat := digits.foldl (fun n c => 10 * n + digitValue c) 0

theorem digitsValue_concat (digits : List Char) (c : Char) :
    digitsValue (digits ++ [c]) = 10 * digitsValue digits + digitValue c := by
  rw [digitsValue, foldl_append]
  rfl

theorem length_fixedDigits : ∀ width n, (fixedDigits width n).length = width
  | 0, _ => rfl
  | width + 1, n => by rw [fixedDigits, length_append, length_fixedDigits]; rfl

theorem digitChar_spec : ∀ d < 10, (Nat.digitChar d).isDigit = true ∧
    digitValue (Nat.digitChar d) = d := by
  decide

theorem isDigit_fixedDigits : ∀ width n, (fixedDigits width n).all Char.isDigit = true
  | 0, _ => rfl
  | width + 1, n => by
      rw [fixedDigits, all_append, isDigit_fixedDigits width, all_cons,
        (digitChar_spec _ (Nat.mod_lt n (by decide))).1]
      rfl

theorem digitsValue_fixedDigits : ∀ width n, n < 10 ^ width → digitsValue (fixedDigits width n) = n
  | 0, n, hn => by
      rw [Nat.pow_zero, Nat.lt_one_iff] at hn
      rw [hn]
      rfl
  | width + 1, n, hn => by
      have hlt : n / 10 < 10 ^ width := by
        rw [Nat.pow_succ] at hn
        omega
      rw [fixedDigits, digitsValue_concat, digitsValue_fixedDigits width _ hlt,
        (digitChar_spec _ (Nat.mod_lt n (by decide))).2]
      omega

theorem digitChar_digitValue {c : Char} (hc : c.isDigit = true) :
    digitValue c < 10 ∧ Nat.digitChar (digitValue c) = c := by
  have hcode : 48 ≤ c.toNat ∧ c.toNat ≤ 57 := by
    simpa [Char.isDigit, UInt32.le_iff_toNat_le] using hc
  have hall : ∀ n, n < 10 → Nat.digitChar n = Char.ofNat (48 + n) := by decide
  unfold digitValue
  refine ⟨by omega, ?_⟩
  rw [hall _ (by omega), show 48 + (c.toNat - 48) = c.toNat by omega, Char.ofNat_toNat]

/-- **Digits are recovered from their value.** -/
theorem fixedDigits_digitsValue {digits : List Char} (h : digits.all Char.isDigit = true) :
    digitsValue digits < 10 ^ digits.length ∧
      fixedDigits digits.length (digitsValue digits) = digits := by
  induction digits using List.reverseRecOn with
  | nil => exact ⟨Nat.one_pos, rfl⟩
  | append_singleton digits c ih =>
    rw [all_append, all_cons, all_nil, Bool.and_true, Bool.and_eq_true] at h
    obtain ⟨hlt, heq⟩ := ih h.1
    obtain ⟨hc, hchar⟩ := digitChar_digitValue h.2
    rw [digitsValue_concat, length_append, length_singleton, Nat.pow_succ]
    refine ⟨by omega, ?_⟩
    rw [fixedDigits, show (10 * digitsValue digits + digitValue c) / 10 = digitsValue digits by
      omega, heq, show (10 * digitsValue digits + digitValue c) % 10 = digitValue c by omega, hchar]

/-! ## Dates in writing -/

/-- `%Y`: four digits, behind a sign outside the years 0 to 9999. -/
def yearText (year : Int) : List Char :=
  if 0 ≤ year ∧ year ≤ 9999 then fixedDigits 4 year.toNat
  else (if year < 0 then '-' else '+') ::
    if year.natAbs ≤ 9999 then fixedDigits 4 year.natAbs else Nat.toDigits 10 year.natAbs

/-- `%Y-%m-%d`. -/
def formatDate (day : Int) : List Char :=
  let date := civilOfDay day
  yearText date.year ++ '-' :: (fixedDigits 2 date.month.toNat ++
    '-' :: fixedDigits 2 date.day.toNat)

/-- Ten characters: digits, but dashes at the fifth and the eighth place. -/
def hasDateShape : List Char → Bool
  | [y₁, y₂, y₃, y₄, dash, m₁, m₂, dash', d₁, d₂] =>
    [y₁, y₂, y₃, y₄, m₁, m₂, d₁, d₂].all Char.isDigit && dash == '-' && dash' == '-'
  | _ => false

/-- The day that a text of that shape names, if there is one. -/
def parseDate : List Char → Option Int
  | [y₁, y₂, y₃, y₄, _, m₁, m₂, _, d₁, d₂] =>
    ofCivil
      { year := digitsValue [y₁, y₂, y₃, y₄]
        month := digitsValue [m₁, m₂]
        day := digitsValue [d₁, d₂] }
  | _ => none

/-- The year has a four-digit text. -/
def IsFourDigit (day : Int) : Prop := 0 ≤ (civilOfDay day).year ∧ (civilOfDay day).year ≤ 9999

instance (day : Int) : Decidable (IsFourDigit day) := inferInstanceAs (Decidable (_ ∧ _))

theorem parseDate_format {text : List Char} {day : Int} (hshape : hasDateShape text = true)
    (h : parseDate text = some day) : text = formatDate day ∧ IsFourDigit day := by
  unfold hasDateShape at hshape
  split at hshape
  · rename_i y₁ y₂ y₃ y₄ dash m₁ m₂ dash' d₁ d₂
    simp only [Bool.and_eq_true, beq_iff_eq] at hshape
    obtain ⟨⟨hdigits, rfl⟩, rfl⟩ := hshape
    rw [parseDate, ofCivil_eq_some] at h
    rw [show [y₁, y₂, y₃, y₄, m₁, m₂, d₁, d₂] = [y₁, y₂, y₃, y₄] ++ ([m₁, m₂] ++ [d₁, d₂]) from rfl,
      all_append, all_append, Bool.and_eq_true, Bool.and_eq_true] at hdigits
    obtain ⟨hyear, hyearText⟩ := fixedDigits_digitsValue hdigits.1
    obtain ⟨-, hmonthText⟩ := fixedDigits_digitsValue hdigits.2.1
    obtain ⟨-, hdayText⟩ := fixedDigits_digitsValue hdigits.2.2
    simp only [length_cons, length_nil, Nat.zero_add, Nat.reduceAdd, Nat.reducePow] at *
    unfold formatDate yearText IsFourDigit
    rw [h]
    dsimp only
    refine ⟨?_, by omega⟩
    rw [if_pos (by omega), Int.toNat_natCast, Int.toNat_natCast, Int.toNat_natCast, hyearText,
      hmonthText, hdayText]
    rfl
  · cases hshape

theorem mem_formatDate {day : Int} {c : Char} (h : c ∈ formatDate day) :
    c.isDigit = true ∨ c = '-' ∨ c = '+' := by
  have hfixed : ∀ width n, c ∈ fixedDigits width n → c.isDigit = true := by
    intro width n hc
    exact all_eq_true.mp (isDigit_fixedDigits width n) c hc
  have hyear : ∀ year, c ∈ yearText year → c.isDigit = true ∨ c = '-' ∨ c = '+' := by
    intro year hc
    unfold yearText at hc
    split at hc
    · exact .inl (hfixed _ _ hc)
    · rcases mem_cons.mp hc with hc | hc
      · split at hc
        · exact .inr (.inl hc)
        · exact .inr (.inr hc)
      · split at hc
        · exact .inl (hfixed _ _ hc)
        · exact .inl (Nat.isDigit_of_mem_toDigits (by decide) (by decide) hc)
  unfold formatDate at h
  dsimp only at h
  rw [mem_append, mem_cons, mem_append, mem_cons] at h
  rcases h with h | h | h | h | h
  · exact hyear _ h
  · exact .inr (.inl h)
  · exact .inl (hfixed _ _ h)
  · exact .inr (.inl h)
  · exact .inl (hfixed _ _ h)

/-- **A date with a four-digit year is read back.** -/
theorem parseDate_formatDate {day : Int} (h : IsFourDigit day) :
    hasDateShape (formatDate day) = true ∧ parseDate (formatDate day) = some day := by
  obtain ⟨hmonth, hmonth', hday, hday'⟩ := civilOfDay_bounds day
  have hyearValue := digitsValue_fixedDigits 4 (civilOfDay day).year.toNat (by have := h.2; omega)
  have hmonthValue := digitsValue_fixedDigits 2 (civilOfDay day).month.toNat (by omega)
  have hdayValue := digitsValue_fixedDigits 2 (civilOfDay day).day.toNat (by omega)
  have hyearDigits := isDigit_fixedDigits 4 (civilOfDay day).year.toNat
  have hmonthDigits := isDigit_fixedDigits 2 (civilOfDay day).month.toNat
  have hdayDigits := isDigit_fixedDigits 2 (civilOfDay day).day.toNat
  obtain ⟨y₁, y₂, y₃, y₄, hyear⟩ :=
    length_eq_four.mp (length_fixedDigits 4 (civilOfDay day).year.toNat)
  obtain ⟨m₁, m₂, hmonths⟩ := length_eq_two.mp (length_fixedDigits 2 (civilOfDay day).month.toNat)
  obtain ⟨d₁, d₂, hdays⟩ := length_eq_two.mp (length_fixedDigits 2 (civilOfDay day).day.toNat)
  have htext : formatDate day = [y₁, y₂, y₃, y₄, '-', m₁, m₂, '-', d₁, d₂] := by
    unfold formatDate yearText
    dsimp only
    rw [if_pos (show _ ∧ _ from h), hyear, hmonths, hdays]
    rfl
  rw [hyear] at hyearValue hyearDigits
  rw [hmonths] at hmonthValue hmonthDigits
  rw [hdays] at hdayValue hdayDigits
  rw [htext]
  constructor
  · simp only [hasDateShape, all_cons, all_nil, Bool.and_true, Bool.and_eq_true,
      beq_self_eq_true] at *
    tauto
  · rw [parseDate, ofCivil_eq_some, hyearValue, hmonthValue, hdayValue]
    have hy := h.1
    rw [CivilDate.mk.injEq]
    omega

theorem formatDate_inj {day day' : Int} (h : IsFourDigit day)
    (heq : formatDate day' = formatDate day) : day' = day := by
  have hparse := parseDate_formatDate h
  by_cases h' : IsFourDigit day'
  · have hparse' := (parseDate_formatDate h').2
    rw [heq, hparse.2, Option.some.injEq] at hparse'
    exact hparse'.symm
  · -- Otherwise the text begins with a sign.
    have hsign : ∃ rest, formatDate day' = '-' :: rest ∨ formatDate day' = '+' :: rest := by
      unfold formatDate yearText
      dsimp only
      rw [if_neg (show ¬ (_ ∧ _) from h')]
      split
      · exact ⟨_, .inl rfl⟩
      · exact ⟨_, .inr rfl⟩
    rw [heq] at hsign
    have hfirst := hparse.1
    obtain ⟨rest, hsign | hsign⟩ := hsign
    all_goals
      rw [hsign] at hfirst
      unfold hasDateShape at hfirst
      split at hfirst
      · rename_i hcons
        rw [List.cons.injEq] at hcons
        obtain ⟨rfl, -⟩ := hcons
        simp at hfirst
      · cases hfirst

end SpxSpark.Lib.Calendar
