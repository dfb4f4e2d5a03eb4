import Mathlib.Data.List.Dedup
import Mathlib.Data.List.DropRight
import Mathlib.Order.Lattice

/-!
# Grouping — a log cut into groups by a key that never decreases

A log is grouped by a key: one group for every key that occurs, in the order of the keys' last
occurrences, holding the entries of that key in log order.
-/

namespace SpxSpark.Grouping

open List

variable {α κ : Type} [DecidableEq κ] (key : α → κ)

def groupKeys (xs : List α) : List κ := (xs.map key).dedup

def groupAt (xs : List α) (k : κ) : List α := xs.filter fun x => key x = k

/-! ## Keys that never decrease -/

/-- The keys of the log never decrease. -/
def Nondecreasing [LE κ] (xs : List α) : Prop := xs.Pairwise fun a b => key a ≤ key b

variable {key} {xs : List α} {x : α} {k : κ}

omit [DecidableEq κ] in
theorem Nondecreasing.le_getLast [Preorder κ] (h : Nondecreasing key xs) {last : α}
    (hlast : xs.getLast? = some last) : ∀ x ∈ xs, key x ≤ key last := by
  obtain ⟨ys, rfl⟩ := getLast?_eq_some_iff.mp hlast
  intro x hx
  rcases mem_append.mp hx with hx | hx
  · exact (pairwise_append.mp h).2.2 x hx last mem_cons_self
  · rw [mem_singleton.mp hx]

theorem mem_groupKeys : k ∈ groupKeys key xs ↔ ∃ x ∈ xs, key x = k := by
  rw [groupKeys, mem_dedup, mem_map]

theorem groupKeys_pairwise [PartialOrder κ] (h : Nondecreasing key xs) :
    (groupKeys key xs).Pairwise (· < ·) := by
  have hle : (groupKeys key xs).Pairwise (· ≤ ·) :=
    (pairwise_map.mpr h).sublist (dedup_sublist _)
  have hne : (groupKeys key xs).Pairwise (· ≠ ·) := nodup_dedup _
  exact (hle.and hne).imp fun h => lt_of_le_of_ne h.1 h.2

/-! ## One more entry -/

theorem dedup_snoc_of_notMem {ks : List κ} (h : k ∉ ks) : (ks ++ [k]).dedup = ks.dedup ++ [k] := by
  induction ks with
  | nil => rfl
  | cons a ks ih =>
    have hk : k ∉ ks := fun hmem => h (mem_cons_of_mem _ hmem)
    have hne : a ≠ k := fun heq => h (heq ▸ mem_cons_self)
    by_cases ha : a ∈ ks
    · rw [cons_append, dedup_cons_of_mem (mem_append_left _ ha), ih hk,
        dedup_cons_of_mem ha]
    · have hnot : a ∉ ks ++ [k] := by simp [ha, hne]
      rw [cons_append, dedup_cons_of_notMem hnot, ih hk, dedup_cons_of_notMem ha,
        cons_append]

theorem dedup_snoc_getLast {ks : List κ} (h : ks.getLast? = some k) :
    (ks ++ [k]).dedup = ks.dedup := by
  induction ks with
  | nil => cases h
  | cons a ks ih =>
    cases ks with
    | nil =>
      obtain rfl : a = k := by simpa using h
      simp
    | cons b ks =>
      have hlast : (b :: ks).getLast? = some k := by simpa [getLast?_cons_cons] using h
      have hk : k ∈ b :: ks := mem_of_getLast? hlast
      have hmem : a ∈ (b :: ks) ++ [k] ↔ a ∈ b :: ks := by
        refine ⟨fun ha => ?_, mem_append_left _⟩
        rcases mem_append.mp ha with ha | ha
        · exact ha
        · exact mem_singleton.mp ha ▸ hk
      rw [cons_append]
      by_cases ha : a ∈ b :: ks
      · rw [dedup_cons_of_mem (hmem.mpr ha), ih hlast, dedup_cons_of_mem ha]
      · rw [dedup_cons_of_notMem (mt hmem.mp ha), ih hlast, dedup_cons_of_notMem ha]

theorem groupKeys_snoc_same {last : α} (hlast : xs.getLast? = some last) (hkey : key x = key last) :
    groupKeys key (xs ++ [x]) = groupKeys key xs := by
  have hmap : (xs.map key).getLast? = some (key x) := by
    rw [getLast?_map, hlast, hkey]
    rfl
  rw [groupKeys, map_append, map_singleton, dedup_snoc_getLast hmap, groupKeys]

theorem groupKeys_snoc_new (hnew : ∀ y ∈ xs, key y ≠ key x) :
    groupKeys key (xs ++ [x]) = groupKeys key xs ++ [key x] := by
  have hmem : key x ∉ xs.map key := by
    intro h
    obtain ⟨y, hy, heq⟩ := mem_map.mp h
    exact hnew y hy heq
  rw [groupKeys, map_append, map_singleton, dedup_snoc_of_notMem hmem, groupKeys]

theorem groupAt_snoc_of_ne (h : key x ≠ k) : groupAt key (xs ++ [x]) k = groupAt key xs k := by
  simp [groupAt, filter_append, h]

theorem groupAt_snoc_self : groupAt key (xs ++ [x]) (key x) = groupAt key xs (key x) ++ [x] := by
  simp [groupAt, filter_append]

theorem groupAt_of_notMem (hnew : ∀ y ∈ xs, key y ≠ k) : groupAt key xs k = [] := by
  rw [groupAt, filter_eq_nil_iff]
  intro y hy
  simpa using hnew y hy

theorem groupKeys_of_getLast? (key : α → κ) {last : α} (hlast : xs.getLast? = some last) :
    ∃ ks, groupKeys key xs = ks ++ [key last] := by
  obtain ⟨ys, rfl⟩ := getLast?_eq_some_iff.mp hlast
  have hsuffix : [key last] <:+ groupKeys key (ys ++ [last]) := by
    rw [groupKeys, map_append, map_singleton, dedup_append]
    exact suffix_union_right _ _
  obtain ⟨ks, hks⟩ := hsuffix
  exact ⟨ks, hks.symm⟩

/-! ## Lists side by side -/

theorem forall₂_imp_mem {β : Type} {R S : α → β → Prop} {ys : List β} (h : List.Forall₂ R xs ys)
    (himp : ∀ a b, b ∈ ys → R a b → S a b) : List.Forall₂ S xs ys := by
  induction h with
  | nil => exact .nil
  | cons hab _ ih =>
    refine .cons (himp _ _ mem_cons_self hab) (ih fun a b hb => ?_)
    exact himp a b (mem_cons_of_mem _ hb)

omit [DecidableEq κ] in
theorem forall₂_toList {β : Type} {R : α → β → Prop} {a : Option α} {b : Option β}
    (h : Option.Rel R a b) : List.Forall₂ R a.toList b.toList := by
  cases h with
  | none => exact .nil
  | some hab => exact .cons hab .nil

end SpxSpark.Grouping
