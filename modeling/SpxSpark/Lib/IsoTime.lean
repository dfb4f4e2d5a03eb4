import SpxSpark.Lib.Calendar
import SpxSpark.Lib.Clock

/-!
# IsoTime — instants in writing

An instant is written as the date and the time of day it has in UTC, and read back from that text.
-/

namespace SpxSpark.Lib

open List

namespace IsoTime

open Calendar

def dayMicros : Int := 86400000000

def offset : List Char := "+00:00".toList

/-- The part of a second, which is left out where there is none, and the offset. -/
def tailText (micros : Nat) : List Char :=
  if micros = 0 then offset else '.' :: (fixedDigits 6 micros ++ offset)

def readTail : List Char → Option Nat
  | '.' :: digits => if digits.drop 6 = offset then some (digitsValue (digits.take 6)) else none
  | text => if text = offset then some 0 else none

/-- `hh:mm:ss`, the part of a second and the offset. -/
def timeText (micros : Nat) : List Char :=
  let seconds := micros / 1000000
  fixedDigits 2 (seconds / 3600) ++ ':' :: (fixedDigits 2 (seconds / 60 % 60) ++
    ':' :: (fixedDigits 2 (seconds % 60) ++ tailText (micros % 1000000)))

def readTime : List Char → Option Nat
  | h₁ :: h₂ :: ':' :: m₁ :: m₂ :: ':' :: s₁ :: s₂ :: tail =>
    (readTail tail).map fun micros =>
      ((digitsValue [h₁, h₂] * 60 + digitsValue [m₁, m₂]) * 60 + digitsValue [s₁, s₂]) * 1000000 +
        micros
  | _ => none

/-- `isoformat()` of an instant in UTC. Python has no instant outside the years with four digits;
here such a one is written as a signed number. -/
def isoformat (time : Instant) : List Char :=
  let day := time / dayMicros
  if IsFourDigit day then formatDate day ++ 'T' :: timeText (time % dayMicros).toNat
  else (if time < 0 then '-' else '+') :: Nat.toDigits 10 time.natAbs

def readDateTime (date : List Char) : List Char → Option Instant
  | 'T' :: rest => (parseDate date).bind fun day =>
    (readTime rest).map fun micros : Nat => day * dayMicros + micros
  | _ => none

/-- The instant that a text so written names. -/
def fromisoformat : List Char → Option Instant
  | '-' :: digits => some (-Nat.ofDigitChars 10 digits 0)
  | '+' :: digits => some (Nat.ofDigitChars 10 digits 0)
  | text =>
    if hasDateShape (text.take 10) then readDateTime (text.take 10) (text.drop 10) else none

theorem readTail_tailText {micros : Nat} (h : micros < 1000000) :
    readTail (tailText micros) = some micros := by
  unfold tailText
  by_cases hzero : micros = 0
  · rw [if_pos hzero, hzero]
    rfl
  · rw [if_neg hzero]
    have hlength : (fixedDigits 6 micros).length = 6 := length_fixedDigits 6 micros
    show (if (fixedDigits 6 micros ++ offset).drop 6 = offset then
      some (digitsValue ((fixedDigits 6 micros ++ offset).take 6)) else none) = _
    rw [drop_left' hlength, take_left' hlength, if_pos rfl,
      digitsValue_fixedDigits 6 micros (by omega)]

theorem readTime_timeText {micros : Nat} (h : micros < 86400000000) :
    readTime (timeText micros) = some micros := by
  unfold timeText
  dsimp only
  have hhours := digitsValue_fixedDigits 2 (micros / 1000000 / 3600) (by omega)
  have hminutes := digitsValue_fixedDigits 2 (micros / 1000000 / 60 % 60) (by omega)
  have hseconds := digitsValue_fixedDigits 2 (micros / 1000000 % 60) (by omega)
  have htail := readTail_tailText (Nat.mod_lt micros (by decide : 1000000 > 0))
  obtain ⟨h₁, h₂, hh⟩ := length_eq_two.mp (length_fixedDigits 2 (micros / 1000000 / 3600))
  obtain ⟨m₁, m₂, hm⟩ := length_eq_two.mp (length_fixedDigits 2 (micros / 1000000 / 60 % 60))
  obtain ⟨s₁, s₂, hs⟩ := length_eq_two.mp (length_fixedDigits 2 (micros / 1000000 % 60))
  rw [hh] at hhours
  rw [hm] at hminutes
  rw [hs] at hseconds
  rw [hh, hm, hs]
  show (readTail (tailText (micros % 1000000))).map _ = _
  rw [htail, Option.map_some, hhours, hminutes, hseconds, Option.some.injEq]
  omega

/-- **What is written is read back.** -/
theorem fromisoformat_isoformat (time : Instant) : fromisoformat (isoformat time) = some time := by
  unfold isoformat
  dsimp only
  by_cases hyear : IsFourDigit (time / dayMicros)
  · rw [if_pos hyear]
    obtain ⟨hshape, hparse⟩ := parseDate_formatDate hyear
    have hmicros : (time % dayMicros).toNat < 86400000000 := by
      unfold dayMicros
      omega
    have htime := readTime_timeText hmicros
    have hlength : (formatDate (time / dayMicros)).length = 10 := by
      unfold hasDateShape at hshape
      split at hshape
      · rename_i heq
        rw [heq]
        rfl
      · cases hshape
    -- a date of that shape begins with a digit
    have hread : ∀ rest, fromisoformat (formatDate (time / dayMicros) ++ rest) =
        if hasDateShape (formatDate (time / dayMicros)) then
          readDateTime (formatDate (time / dayMicros)) rest
        else none := by
      intro rest
      obtain ⟨first, others, hdate⟩ := exists_cons_of_length_eq_add_one hlength
      have hfirst : first.isDigit = true := by
        rw [hdate] at hshape
        unfold hasDateShape at hshape
        split at hshape
        · rename_i heq
          rw [(List.cons.inj heq).1]
          simp only [all_cons, Bool.and_eq_true] at hshape
          exact hshape.1.1.1
        · cases hshape
      have htake : (formatDate (time / dayMicros) ++ rest).take 10 =
          formatDate (time / dayMicros) :=
        take_left' hlength
      have hdrop : (formatDate (time / dayMicros) ++ rest).drop 10 = rest := drop_left' hlength
      rw [fromisoformat.eq_def]
      split
      · rename_i heq
        rw [hdate, cons_append] at heq
        rw [(List.cons.inj heq).1] at hfirst
        exact absurd hfirst (by decide)
      · rename_i heq
        rw [hdate, cons_append] at heq
        rw [(List.cons.inj heq).1] at hfirst
        exact absurd hfirst (by decide)
      · rw [htake, hdrop]
    rw [hread, if_pos hshape]
    show (parseDate _).bind (fun day => (readTime _).map _) = _
    rw [hparse, Option.bind_some, htime, Option.map_some,
      Int.toNat_of_nonneg (Int.emod_nonneg time (by decide)), Int.ediv_mul_add_emod]
  · rw [if_neg hyear]
    have hdigits := Nat.ofDigitChars_toDigits (n := time.natAbs) (b := 10) (by decide) (by decide)
    by_cases hneg : time < 0
    · rw [if_pos hneg]
      show some (-(Nat.ofDigitChars 10 (Nat.toDigits 10 time.natAbs) 0 : Int)) = _
      rw [hdigits, Int.ofNat_natAbs_of_nonpos hneg.le, neg_neg]
    · rw [if_neg hneg]
      show some (Nat.ofDigitChars 10 (Nat.toDigits 10 time.natAbs) 0 : Int) = _
      rw [hdigits, Int.natAbs_of_nonneg (not_lt.mp hneg)]

theorem mem_isoformat {time : Instant} {c : Char} (h : c ∈ isoformat time) :
    c.isDigit = true ∨ c ∈ ['-', '+', ':', '.', 'T'] := by
  have hfixed : ∀ width n, c ∈ fixedDigits width n → c.isDigit = true := by
    intro width n hc
    exact all_eq_true.mp (isDigit_fixedDigits width n) c hc
  have hoffset : c ∈ offset → c.isDigit = true ∨ c ∈ ['-', '+', ':', '.', 'T'] := by
    intro hc
    have hall : (offset.all fun c =>
        decide (c.isDigit = true ∨ c ∈ ['-', '+', ':', '.', 'T'])) = true := by decide
    exact of_decide_eq_true (all_eq_true.mp hall c hc)
  have htail : ∀ micros, c ∈ tailText micros →
      c.isDigit = true ∨ c ∈ ['-', '+', ':', '.', 'T'] := by
    intro micros hc
    unfold tailText at hc
    split at hc
    · exact hoffset hc
    · rcases mem_cons.mp hc with rfl | hc
      · exact .inr (by decide)
      rcases mem_append.mp hc with hc | hc
      · exact .inl (hfixed _ _ hc)
      · exact hoffset hc
  have htime : ∀ micros, c ∈ timeText micros →
      c.isDigit = true ∨ c ∈ ['-', '+', ':', '.', 'T'] := by
    intro micros hc
    rcases mem_append.mp hc with hc | hc
    · exact .inl (hfixed _ _ hc)
    rcases mem_cons.mp hc with rfl | hc
    · exact .inr (by decide)
    rcases mem_append.mp hc with hc | hc
    · exact .inl (hfixed _ _ hc)
    rcases mem_cons.mp hc with rfl | hc
    · exact .inr (by decide)
    rcases mem_append.mp hc with hc | hc
    · exact .inl (hfixed _ _ hc)
    · exact htail _ hc
  unfold isoformat at h
  dsimp only at h
  split at h
  · rcases mem_append.mp h with h | h
    · rcases mem_formatDate h with h | rfl | rfl
      · exact .inl h
      · exact .inr (by decide)
      · exact .inr (by decide)
    rcases mem_cons.mp h with rfl | h
    · exact .inr (by decide)
    · exact htime _ h
  · rcases mem_cons.mp h with rfl | h
    · split
      · exact .inr (by decide)
      · exact .inr (by decide)
    · exact .inl (Nat.isDigit_of_mem_toDigits (by decide) (by decide) h)

end IsoTime

end SpxSpark.Lib
