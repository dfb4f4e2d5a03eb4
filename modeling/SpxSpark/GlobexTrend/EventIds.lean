import SpxSpark.GlobexTrend.Machine

/-!
# EventIds — an id says which event it is of

Within a session the id of an event determines its kind, its number and its milestone.
-/

namespace SpxSpark.GlobexTrend

open Lib

variable {session : Text} {n m sequence sequence' : Nat} {direction direction' : Direction}
  {target target' : GlobexTrendRegime}

theorem natText_injective (h : natText n = natText m) : n = m := toDigits_injective h

theorem colon_not_mem_natText : ':' ∉ natText n := not_mem_toDigits (by decide)

theorem milestoneText_inj
    (h : direction.text ++ ":m".toList ++ natText n = direction'.text ++ ":m".toList ++ natText m) :
    n = m := by
  have hcolon : ∀ d : Direction, ':' ∉ d.text := by
    intro d
    cases d
    · decide
    · decide
  rw [List.append_assoc, List.append_assoc] at h
  have htail := (separator_inj (hcolon direction) (hcolon direction') h).2
  exact natText_injective (List.cons.inj htail).2

theorem transitionEventId_inj
    (h : transitionEventId session sequence target = transitionEventId session sequence' target') :
    sequence = sequence' := by
  have htail := (List.cons.inj (List.append_cancel_left h)).2
  exact natText_injective (separator_inj colon_not_mem_natText colon_not_mem_natText htail).1

theorem advanceEventId_inj
    (h : advanceEventId session direction n = advanceEventId session direction' m) : n = m :=
  milestoneText_inj (List.cons.inj (List.append_cancel_left h)).2

theorem continuationEventId_inj
    (h : continuationEventId session sequence direction n =
      continuationEventId session sequence' direction' m) : sequence = sequence' ∧ n = m := by
  have htail := (List.cons.inj (List.append_cancel_left h)).2
  obtain ⟨hsequence, hmilestone⟩ := separator_inj colon_not_mem_natText colon_not_mem_natText htail
  exact ⟨natText_injective hsequence, milestoneText_inj hmilestone⟩

/-- The character that tells the kinds apart. -/
def kindLetter (id : Text) : Option Char := (id.drop 7).head?

theorem kindLetter_transition : kindLetter (transitionEventId session sequence target) = some 't' :=
  rfl

theorem kindLetter_advance : kindLetter (advanceEventId session direction n) = some 'a' := rfl

theorem kindLetter_continuation :
    kindLetter (continuationEventId session sequence direction n) = some 'c' := rfl

end SpxSpark.GlobexTrend
