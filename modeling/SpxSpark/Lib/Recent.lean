import Mathlib.Data.List.DropRight
import Mathlib.Data.List.Forall2

/-!
# Recent — the newest entries of a list

A bounded memory keeps the last `n` entries of what was ever written to it, `l.rtake n`. The lemmas
say what a memory of `l` tells about `l`, and that writing to the memory, dropping the oldest entry
when there are too many, is the memory of the longer list.
-/

namespace SpxSpark.Lib

open List

variable {α β : Type} {l extra : List α} {x : α} {n m : ℕ}

theorem rtake_rtake (h : m ≤ n) : (l.rtake n).rtake m = l.rtake m := by
  rw [List.rtake, List.rtake, List.rtake, drop_drop, length_drop]
  congr 1
  omega

theorem forall₂_rtake {R : α → β → Prop} {ys : List β} (h : List.Forall₂ R l ys) (n : ℕ) :
    List.Forall₂ R (l.rtake n) (ys.rtake n) := by
  rw [List.rtake, List.rtake, h.length_eq]
  exact forall₂_drop _ h

theorem length_rtake_le (l : List α) (n : ℕ) : (l.rtake n).length ≤ n := by
  rw [List.rtake, length_drop]
  omega

theorem rtake_eq_self (h : l.length ≤ n) : l.rtake n = l := by
  rw [List.rtake, Nat.sub_eq_zero_of_le h, drop_zero]

theorem rtake_sublist (l : List α) (n : ℕ) : (l.rtake n).Sublist l := drop_sublist _ _

theorem mem_of_mem_rtake (h : x ∈ l.rtake n) : x ∈ l := (rtake_sublist l n).mem h

theorem rtake_append (h : extra.length ≤ n) :
    (l ++ extra).rtake n = l.rtake (n - extra.length) ++ extra := by
  have hdrop : (l ++ extra).length - n = l.length - (n - extra.length) := by
    rw [length_append]
    omega
  rw [List.rtake, hdrop, drop_append_of_le_length (Nat.sub_le _ _), ← List.rtake]

/-- **What a memory holds stays in it while no more is written than there is room for.** -/
theorem mem_rtake_append (hold : x ∈ l → x ∈ l.rtake m) (hroom : m + extra.length ≤ n)
    (h : x ∈ l ++ extra) : x ∈ (l ++ extra).rtake n := by
  rw [rtake_append (by omega)]
  rcases mem_append.mp h with h | h
  · have hkept := hold h
    rw [← rtake_rtake (n := n - extra.length) (by omega)] at hkept
    exact mem_append_left _ (mem_of_mem_rtake hkept)
  · exact mem_append_right _ h

/-- Writing one more entry, and dropping the oldest one when there are too many. -/
theorem rtake_push (l : List α) (x : α) (n : ℕ) :
    (if n < (l.rtake n ++ [x]).length then (l.rtake n ++ [x]).tail else l.rtake n ++ [x]) =
      (l ++ [x]).rtake n := by
  have hlength : (l.rtake n).length = min n l.length := by
    rw [List.rtake, length_drop]
    omega
  rw [length_append, length_singleton, hlength]
  rcases Nat.lt_or_ge l.length n with hroom | hfull
  · rw [if_neg (by omega), rtake_eq_self hroom.le, rtake_eq_self]
    rw [length_append, length_singleton]
    omega
  · have hdrop : (l ++ [x]).rtake n = ((l ++ [x]).drop (l.length - n)).tail := by
      rw [List.rtake, tail_drop, length_append, length_singleton]
      congr 1
      omega
    rw [if_pos (by omega), hdrop, drop_append_of_le_length (Nat.sub_le _ _), ← List.rtake]

/-! ## The ends of a sorted list -/

variable {R : α → α → Prop} {a b : α}

theorem rel_of_mem_take (h : l.Pairwise R) (ha : a ∈ l.take n) (hb : b ∈ l) (hcut : b ∉ l.take n) :
    R a b := by
  rw [← take_append_drop n l] at h hb
  exact (pairwise_append.mp h).2.2 a ha b ((mem_append.mp hb).resolve_left hcut)

theorem mem_last_or_before (hsorted : l.Pairwise R)
    (n : ℕ) (h : a ∈ l) : a ∈ l.drop (l.length - n) ∨
      (l.drop (l.length - n)).length = n ∧ ∀ b ∈ l.drop (l.length - n), R a b := by
  rw [← take_append_drop (l.length - n) l] at hsorted h
  rcases mem_append.mp h with htake | hdrop
  · right
    have hlong : 0 < (l.take (l.length - n)).length := length_pos_of_mem htake
    rw [length_take] at hlong
    refine ⟨?_, fun b hb => (pairwise_append.mp hsorted).2.2 a htake b hb⟩
    rw [length_drop]
    omega
  · exact Or.inl hdrop

end SpxSpark.Lib
