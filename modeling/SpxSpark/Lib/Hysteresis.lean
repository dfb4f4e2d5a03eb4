import Mathlib.Data.List.Basic
import Mathlib.Data.List.Induction

/-!
# Hysteresis — trailing runs and two-threshold switches

A sequence of yes/no readings is watched for runs. `trailingRun p xs` is the length of the run of
readings satisfying `p` that `xs` ends in.
-/

namespace SpxSpark.Lib

open List

variable {α β : Type}

/-! ## Trailing runs -/

/-- How many of the last readings satisfy `p` without a gap. -/
def trailingRun (p : α → Bool) (xs : List α) : Nat :=
  (xs.reverse.takeWhile p).length

@[simp] theorem trailingRun_nil (p : α → Bool) : trailingRun p [] = 0 := rfl

theorem trailingRun_snoc (p : α → Bool) (xs : List α) (x : α) :
    trailingRun p (xs ++ [x]) = if p x then trailingRun p xs + 1 else 0 := by
  unfold trailingRun
  rw [reverse_append, reverse_singleton, singleton_append, takeWhile_cons]
  split <;> simp

theorem trailingRun_map (f : β → α) (p : α → Bool) (xs : List β) :
    trailingRun p (xs.map f) = trailingRun (fun x => p (f x)) xs := by
  unfold trailingRun
  rw [← map_reverse, takeWhile_map, length_map]
  rfl

theorem trailingRun_filter {p keep : α → Bool} (hp : ∀ x, p x = true → keep x = true)
    (xs : List α)
    (h : ∀ past x rest, xs = past ++ x :: rest → keep x = false →
      trailingRun p (past.filter keep) = 0) :
    trailingRun p (xs.filter keep) = trailingRun p xs := by
  induction xs using List.reverseRecOn with
  | nil => rfl
  | append_singleton xs x ih =>
    have hxs := ih fun past y rest hpast =>
      h past y (rest ++ [x]) (by rw [hpast, append_assoc, cons_append])
    rw [filter_append, trailingRun_snoc]
    by_cases hx : keep x = true
    · rw [filter_cons_of_pos hx, filter_nil, trailingRun_snoc, hxs]
    · rw [filter_cons_of_neg hx, filter_nil, append_nil,
        h xs x [] rfl (by simpa using hx), if_neg fun hpx => hx (hp x hpx)]

/-! ## The two-threshold switch -/

/-- The last run to reach its length was one of good readings, or no run has reached it. -/
def SwitchOn (p : α → Bool) (bad good : Nat) (xs : List α) : Prop :=
  (∀ past rest, xs = past ++ rest → trailingRun p past < good ∧
      trailingRun (fun x => !p x) past < bad) ∨
    ∃ past rest, xs = past ++ rest ∧ good ≤ trailingRun p past ∧
      ∀ more tail, rest = more ++ tail → trailingRun (fun x => !p x) (past ++ more) < bad

variable {p : α → Bool} {bad good : Nat}

theorem switchOn_nil (hbad : 0 < bad) (hgood : 0 < good) : SwitchOn p bad good [] := by
  left
  intro past rest h
  obtain ⟨rfl, -⟩ := append_eq_nil_iff.mp h.symm
  exact ⟨hgood, hbad⟩

theorem prefix_snoc {xs past rest : List α} {x : α} (h : xs ++ [x] = past ++ rest) :
    past = xs ++ [x] ∧ rest = [] ∨ ∃ rest', rest = rest' ++ [x] ∧ xs = past ++ rest' := by
  rcases eq_nil_or_concat rest with rfl | ⟨rest', y, rfl⟩
  · exact Or.inl ⟨by simpa using h.symm, rfl⟩
  · rw [concat_eq_append, ← append_assoc] at h
    obtain ⟨hxs, hx⟩ := append_inj' h rfl
    obtain rfl : x = y := by simpa using hx
    exact Or.inr ⟨rest', by simp, hxs⟩

theorem trailingRun_not_of_pos {xs : List α} (h : 0 < trailingRun p xs) :
    trailingRun (fun x => !p x) xs = 0 := by
  rcases eq_nil_or_concat xs with rfl | ⟨xs', x, rfl⟩
  · simp at h
  · rw [concat_eq_append, trailingRun_snoc] at *
    split at h
    · rename_i hx
      simp [hx]
    · omega

theorem SwitchOn.bad_lt {xs : List α} (h : SwitchOn p bad good xs) :
    trailingRun (fun x => !p x) xs < bad := by
  rcases h with h | ⟨past, rest, rfl, _, h⟩
  · exact (h xs [] (by simp)).2
  · exact h rest [] (by simp)

/-- One more reading: a good run that has reached its length switches on, a bad one off, and
otherwise the switch stays. -/
theorem switchOn_snoc (hbad : 0 < bad) (hgood : 0 < good) (xs : List α) (x : α) :
    SwitchOn p bad good (xs ++ [x]) ↔
      good ≤ trailingRun p (xs ++ [x]) ∨
        SwitchOn p bad good xs ∧ trailingRun (fun x => !p x) (xs ++ [x]) < bad := by
  constructor
  · intro h
    by_cases hg : good ≤ trailingRun p (xs ++ [x])
    · exact Or.inl hg
    · refine Or.inr ⟨?_, h.bad_lt⟩
      rcases h with h | ⟨past, rest, hpast, hgp, hrest⟩
      · left
        intro past rest hxs
        exact h past (rest ++ [x]) (by rw [hxs, append_assoc])
      · rcases prefix_snoc hpast with ⟨rfl, rfl⟩ | ⟨rest', rfl, hxs⟩
        · exact absurd hgp hg
        · refine Or.inr ⟨past, rest', hxs, hgp, ?_⟩
          intro more tail hmore
          exact hrest more (tail ++ [x]) (by rw [hmore, append_assoc])
  · intro h
    by_cases hg : good ≤ trailingRun p (xs ++ [x])
    · refine Or.inr ⟨xs ++ [x], [], by simp, hg, ?_⟩
      intro more tail hmore
      obtain ⟨rfl, -⟩ := append_eq_nil_iff.mp hmore.symm
      rw [append_nil, trailingRun_not_of_pos (by omega)]
      exact hbad
    · obtain ⟨hon, hlt⟩ := h.resolve_left hg
      rcases hon with hnone | ⟨past, rest, rfl, hgp, hrest⟩
      · left
        intro past rest hpast
        rcases prefix_snoc hpast with ⟨rfl, -⟩ | ⟨rest', -, hxs⟩
        · exact ⟨by omega, hlt⟩
        · exact hnone past rest' hxs
      · refine Or.inr ⟨past, rest ++ [x], by rw [append_assoc], hgp, ?_⟩
        intro more tail hmore
        rcases prefix_snoc hmore with ⟨rfl, -⟩ | ⟨rest', -, hr⟩
        · rw [← append_assoc]
          exact hlt
        · exact hrest more rest' hr

theorem switchOn_map (hbad : 0 < bad) (hgood : 0 < good) (f : β → α) (xs : List β) :
    SwitchOn p bad good (xs.map f) ↔ SwitchOn (fun x => p (f x)) bad good xs := by
  induction xs using List.reverseRecOn with
  | nil =>
    exact iff_of_true (switchOn_nil hbad hgood) (switchOn_nil hbad hgood)
  | append_singleton xs x ih =>
    rw [map_append, map_singleton, switchOn_snoc hbad hgood,
      switchOn_snoc hbad hgood, ih, ← map_singleton, ← map_append,
      trailingRun_map, trailingRun_map]

end SpxSpark.Lib
