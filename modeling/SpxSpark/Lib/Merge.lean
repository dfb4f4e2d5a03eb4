import Mathlib.Data.List.AList
import Mathlib.Order.Basic

/-!
# Merge — dictionaries merged entry by entry, and latest values

Writers that share a dictionary merge their own copy into the stored one under a lock. `mergeWith`
is that merge with a rule `f` for keys both have; `lookup_mergeWith` says what it leaves under each
key, and `lookup_mergeWith_self` when it leaves the stored value alone.
-/

namespace SpxSpark.Lib

/-! ## Merging -/

section Merge

variable {κ ν : Type} [DecidableEq κ]

abbrev Dict (κ ν : Type) := AList fun _ : κ => ν

/-- The value a merge puts under a key: the update's, or the rule's where one is stored. -/
def combine (f : ν → ν → ν) (old : Option ν) (value : ν) : ν :=
  match old with
  | none => value
  | some old => f value old

/-- Each entry of the update is put into the stored dictionary. -/
def mergeWith (f : ν → ν → ν) (stored update : Dict κ ν) : Dict κ ν :=
  update.entries.foldl
    (fun merged entry =>
      AList.insert entry.1 (combine f (AList.lookup entry.1 merged) entry.2) merged) stored

variable {f : ν → ν → ν} {stored update : Dict κ ν} {k : κ}

theorem lookup_mergeWith : (mergeWith f stored update).lookup k =
    (update.lookup k).elim (stored.lookup k) fun value =>
      some (combine f (stored.lookup k) value) := by
  obtain ⟨entries, hnodup⟩ := update
  show (entries.foldl _ stored).lookup k = (entries.dlookup k).elim (stored.lookup k) _
  -- the keys of the update differ, so each is combined with what was stored
  induction entries generalizing stored with
  | nil => rfl
  | cons entry rest ih =>
    obtain ⟨hentry, hrest⟩ := List.nodupKeys_cons.mp hnodup
    rw [List.foldl_cons, ih hrest]
    by_cases hk : k = entry.1
    · subst hk
      rw [List.dlookup_eq_none.mpr hentry, List.dlookup_cons_eq]
      simp
    · rw [List.dlookup_cons_ne _ _ hk, AList.lookup_insert_ne hk]

theorem lookup_mergeWith_self
    (h : ∀ value, update.lookup k = some value →
      ∃ old, stored.lookup k = some old ∧ f value old = old) :
    (mergeWith f stored update).lookup k = stored.lookup k := by
  rw [lookup_mergeWith]
  cases hupdate : update.lookup k with
  | none => rfl
  | some value =>
    obtain ⟨old, hold, hf⟩ := h value hupdate
    show some (combine f (stored.lookup k) value) = _
    rw [hold]
    exact congrArg some hf

end Merge

/-! ## The latest of a history -/

section Latest

variable {τ : Type} [Preorder τ]

/-- The value is one of the history and none is later; no value where the history is empty. -/
def IsLatest (value : Option τ) (history : List τ) : Prop :=
  (∀ t, value = some t → t ∈ history) ∧ ∀ x ∈ history, ∃ t, value = some t ∧ x ≤ t

variable {value : Option τ} {history : List τ} {t : τ}

theorem isLatest_nil : IsLatest (none : Option τ) [] := by
  constructor
  · intro t ht
    cases ht
  · intro x hx
    cases hx

end Latest

end SpxSpark.Lib
