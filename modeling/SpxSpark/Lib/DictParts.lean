import Mathlib.Data.Finset.Card
import SpxSpark.Lib.Merge

/-!
# DictParts — parts and unions of dictionaries

Comprehensions over a dictionary and the union of two, each with what it holds under a key. Which
keys a dictionary has is a finite set, and as many as it has entries.
-/

namespace SpxSpark.Lib

open List

namespace Dict

variable {κ ν : Type} [DecidableEq κ]

/-- `{key: value for key, value in d.items() if p(key, value)}`. -/
def restrict (p : κ → ν → Bool) (d : Dict κ ν) : Dict κ ν where
  entries := d.entries.filter fun entry => p entry.1 entry.2
  nodupKeys := (List.Sublist.map Sigma.fst filter_sublist).nodup d.keys_nodup

/-- `{**d, **e}`. The order of the entries only decides in which order they are gone through. -/
def update (d e : Dict κ ν) : Dict κ ν := e ∪ d

/-- `len(d)`. -/
def size (d : Dict κ ν) : Nat := d.entries.length

/-- `set(d)`. -/
def keySet (d : Dict κ ν) : Finset κ := d.keys.toFinset

variable {p : κ → ν → Bool} {d e : Dict κ ν} {k : κ} {v : ν}

theorem lookup_restrict : (restrict p d).lookup k = (d.lookup k).filter (p k) := by
  obtain ⟨entries, hnodup⟩ := d
  show (entries.filter fun entry => p entry.1 entry.2).dlookup k = (entries.dlookup k).filter (p k)
  -- a key has one entry, so where that entry is left out there is none after it
  induction entries with
  | nil => rfl
  | cons entry rest ih =>
    obtain ⟨key, value⟩ := entry
    obtain ⟨hfresh, hrest⟩ := nodupKeys_cons.mp hnodup
    by_cases hkey : k = key
    · subst hkey
      have hnone : rest.dlookup k = none := dlookup_eq_none.mpr hfresh
      rw [dlookup_cons_eq]
      by_cases hp : p k value = true
      · rw [filter_cons, if_pos hp, dlookup_cons_eq, Option.filter_some, if_pos hp]
      · rw [filter_cons, if_neg hp, ih hrest, hnone, Option.filter_some, if_neg hp]
        rfl
    · rw [dlookup_cons_ne _ _ hkey]
      by_cases hp : p key value = true
      · rw [filter_cons, if_pos hp, dlookup_cons_ne _ _ hkey, ih hrest]
      · rw [filter_cons, if_neg hp, ih hrest]

theorem lookup_restrict_some :
    (restrict p d).lookup k = some v ↔ d.lookup k = some v ∧ p k v = true := by
  rw [lookup_restrict, Option.filter_eq_some_iff]

omit [DecidableEq κ] in
theorem restrict_restrict : restrict p (restrict p d) = restrict p d := by
  apply AList.ext
  show (d.entries.filter _).filter _ = d.entries.filter _
  rw [filter_filter]
  simp

theorem mem_iff_lookup : k ∈ d ↔ ∃ v, d.lookup k = some v := by
  rw [← AList.lookup_isSome, Option.isSome_iff_exists]

omit [DecidableEq κ] in
theorem not_mem_empty : k ∉ (∅ : Dict κ ν) := not_mem_nil

theorem mem_restrict : k ∈ restrict p d ↔ ∃ v, d.lookup k = some v ∧ p k v = true := by
  rw [mem_iff_lookup]
  exact exists_congr fun v => lookup_restrict_some

@[simp]
theorem mem_restrict_keys {q : κ → Bool} : k ∈ restrict (fun key _ => q key) d ↔ q k ∧ k ∈ d := by
  rw [mem_restrict, mem_iff_lookup, and_comm]
  exact exists_and_right

theorem lookup_update : (update d e).lookup k = (e.lookup k).or (d.lookup k) := by
  unfold update
  cases he : e.lookup k with
  | none => rw [AList.lookup_union_right (AList.lookup_eq_none.mp he), Option.none_or]
  | some value =>
    have hmem : k ∈ e := AList.lookup_isSome.mp (by rw [he]; rfl)
    rw [AList.lookup_union_left hmem, he, Option.some_or]

@[simp]
theorem mem_update : k ∈ update d e ↔ k ∈ d ∨ k ∈ e := by
  unfold update
  rw [AList.mem_union, or_comm]

@[simp]
theorem mem_keySet : k ∈ keySet d ↔ k ∈ d := mem_toFinset

theorem card_keySet (d : Dict κ ν) : (keySet d).card = size d := by
  unfold keySet size
  rw [toFinset_card_of_nodup d.keys_nodup]
  exact length_map _

theorem size_le {keys : List κ} (h : ∀ k ∈ d, k ∈ keys) : size d ≤ keys.length := by
  rw [← card_keySet]
  refine (Finset.card_le_card fun k hk => ?_).trans (toFinset_card_le keys)
  exact mem_toFinset.mpr (h k (mem_keySet.mp hk))

theorem mem_of_lookup (h : d.lookup k = some v) : k ∈ d := mem_iff_lookup.mpr ⟨v, h⟩

theorem lookup_update_some (h : ∀ k, k ∈ d → k ∉ e) :
    (update d e).lookup k = some v ↔ d.lookup k = some v ∨ e.lookup k = some v := by
  rw [lookup_update]
  cases he : e.lookup k with
  | none => exact ⟨fun h => .inl h, fun h => h.elim id nofun⟩
  | some value =>
    have hd : d.lookup k = none := AList.lookup_eq_none.mpr fun hmem =>
      h k hmem (mem_of_lookup he)
    rw [hd]
    exact ⟨fun h => .inr h, fun h => h.elim nofun id⟩

theorem lookup_singleton_some {k' : κ} {v' : ν} :
    (AList.singleton k' v' : Dict κ ν).lookup k = some v ↔ k = k' ∧ v' = v := by
  show [(⟨k', v'⟩ : (_ : κ) × ν)].dlookup k = some v ↔ _
  by_cases hk : k = k'
  · subst hk
    rw [dlookup_cons_eq, Option.some.injEq]
    exact ⟨fun h => ⟨rfl, h⟩, fun h => h.2⟩
  · rw [dlookup_cons_ne _ _ hk]
    exact ⟨nofun, fun h => (hk h.1).elim⟩

theorem mem_singleton_dict {k' : κ} : k ∈ (AList.singleton k' v : Dict κ ν) ↔ k = k' := by
  rw [mem_iff_lookup]
  exact ⟨fun ⟨_, h⟩ => (lookup_singleton_some.mp h).1,
    fun h => ⟨v, lookup_singleton_some.mpr ⟨h, rfl⟩⟩⟩

end Dict

end SpxSpark.Lib
