import Mathlib.Data.List.Pairwise
import Mathlib.Data.List.Sort

/-!
# Window — ordered maps kept within an age and a size

The maps are `Std.ExtTreeMap`. `putAll` stores a list of values, the last one under a key winning;
`prune` drops the entries older than a cutoff; `evictOldest` drops the oldest entries, ties broken
by key, until no more than a limit remain.
-/

namespace SpxSpark.Lib

open Std List

variable {K V T : Type} {cmp : K → K → Ordering} [TransCmp cmp]

/-- The stored values, in the order of their keys. -/
def valuesOf (m : ExtTreeMap K V cmp) : List V := m.toList.map (·.2)

/-- Stores each value under its own key, in list order. -/
def putAll (key : V → K) (vs : List V) (m : ExtTreeMap K V cmp) : ExtTreeMap K V cmp :=
  vs.foldl (fun m v => m.insert (key v) v) m

def eraseAll (ks : List K) (m : ExtTreeMap K V cmp) : ExtTreeMap K V cmp :=
  ks.foldl (fun m k => m.erase k) m

section
variable [LinearOrder T] (age : V → T)

/-- Keeps what is no older than `cutoff`. -/
def prune (cutoff : T) (m : ExtTreeMap K V cmp) : ExtTreeMap K V cmp :=
  m.filter fun _ v => decide (cutoff ≤ age v)

/-- The keys from the oldest entry to the youngest, equal ages in key order. -/
def oldestKeys (m : ExtTreeMap K V cmp) : List K :=
  ((m.toList.map fun e => (age e.2, e.1)).insertionSort fun a b =>
    a.1 < b.1 ∨ (a.1 = b.1 ∧ (cmp a.2 b.2).isLE)).map (·.2)

/-- Drops the oldest entries until at most `limit` remain. -/
def evictOldest (limit : Nat) (m : ExtTreeMap K V cmp) : ExtTreeMap K V cmp :=
  eraseAll ((oldestKeys age m).take (m.size - limit)) m

end

/-! ## Reading a map after an operation -/

variable {m : ExtTreeMap K V cmp} {k : K} {v : V}

theorem getElem?_eraseAll : ∀ {ks : List K} {m : ExtTreeMap K V cmp},
    (eraseAll ks m)[k]? = some v → m[k]? = some v
  | [], _, h => h
  | k' :: ks, m, h => by
      have herase : (m.erase k')[k]? = some v := getElem?_eraseAll h
      rw [ExtTreeMap.getElem?_erase] at herase
      split at herase
      · cases herase
      · exact herase

section
variable [LinearOrder T] {age : V → T} {limit : Nat}

theorem getElem?_evictOldest (h : (evictOldest age limit m)[k]? = some v) : m[k]? = some v :=
  getElem?_eraseAll h

theorem evictOldest_eq_self (h : m.size ≤ limit) : evictOldest age limit m = m := by
  rw [evictOldest, Nat.sub_eq_zero_of_le h, take_zero]
  rfl

theorem oldestKeys_perm : (oldestKeys age m).Perm m.keys := by
  have hsort : (oldestKeys age m).Perm ((m.toList.map fun e => (age e.2, e.1)).map (·.2)) :=
    (perm_insertionSort _ _).map _
  rw [map_map] at hsort
  rw [← ExtTreeMap.map_fst_toList_eq_keys]
  exact hsort

end

theorem valuesOf_ne_nil (h : m.isEmpty = false) : valuesOf m ≠ [] := by
  intro hnil
  have hempty : m = ∅ := ExtTreeMap.toList_eq_nil_iff.mp (map_eq_nil_iff.mp hnil)
  rw [ExtTreeMap.isEmpty_iff.mpr hempty] at h
  cases h

variable [LawfulEqCmp cmp]

theorem mem_valuesOf : v ∈ valuesOf m ↔ ∃ k : K, m[k]? = some v := by
  simp [valuesOf, ExtTreeMap.mem_toList_iff_getElem?_eq_some]

theorem getElem?_putAll [DecidableEq K] {key : V → K} : ∀ {vs : List V} {m : ExtTreeMap K V cmp},
      (putAll key vs m)[k]? = ((vs.filter fun v => key v = k).getLast?).or m[k]?
  | [], m => by simp [putAll]
  | v :: vs, m => by
      have ih : (putAll key vs (m.insert (key v) v))[k]? = _ := getElem?_putAll
      rw [putAll, foldl_cons, ← putAll, ih, ExtTreeMap.getElem?_insert]
      by_cases hk : key v = k
      · rw [filter_cons_of_pos (by simpa using hk), getLast?_cons,
          if_pos (LawfulEqCmp.compare_eq_iff_eq.mpr hk)]
        cases (vs.filter fun v => decide (key v = k)).getLast? <;> rfl
      · rw [filter_cons_of_neg (by simpa using hk),
          if_neg (fun h => hk (LawfulEqCmp.compare_eq_iff_eq.mp h))]

section
variable [LinearOrder T] {age : V → T} {cutoff : T}

theorem getElem?_prune : (prune age cutoff m)[k]? = some v ↔ m[k]? = some v ∧ cutoff ≤ age v := by
  rw [prune, ExtTreeMap.getElem?_filter', Option.filter_eq_some_iff, decide_eq_true_iff]

theorem prune_eq_self (h : ∀ (k : K) (v : V), m[k]? = some v → cutoff ≤ age v) :
    prune age cutoff m = m := by
  refine ExtTreeMap.ext_getElem? fun k => ?_
  cases hm : m[k]? with
  | none =>
    rw [prune, ExtTreeMap.getElem?_filter', hm]
    rfl
  | some v => exact getElem?_prune.mpr ⟨hm, h k v hm⟩

end

/-! ## The size limit -/

theorem size_eraseAll : ∀ {ks : List K} {m : ExtTreeMap K V cmp},
    ks.Nodup → (∀ k ∈ ks, k ∈ m) → (eraseAll ks m).size = m.size - ks.length
  | [], _, _, _ => rfl
  | k :: ks, m, hnd, hmem => by
      obtain ⟨hk, hks⟩ := nodup_cons.mp hnd
      have hrest : ∀ k' ∈ ks, k' ∈ m.erase k := by
        intro k' hk'
        refine ExtTreeMap.mem_erase.mpr ⟨?_, hmem k' (mem_cons_of_mem _ hk')⟩
        intro heq
        rw [LawfulEqCmp.compare_eq_iff_eq.mp heq] at hk
        exact hk hk'
      have hsize : (m.erase k).size = m.size - 1 := by
        rw [ExtTreeMap.size_erase,
          if_pos (ExtTreeMap.mem_iff_contains.mp (hmem k (mem_cons_self ..)))]
      calc (eraseAll (k :: ks) m).size = (eraseAll ks (m.erase k)).size := rfl
        _ = m.size - (k :: ks).length := by
            rw [size_eraseAll hks hrest, hsize, length_cons]
            omega

theorem size_evictOldest_le [LinearOrder T] {age : V → T} {limit : Nat} :
    (evictOldest age limit m).size ≤ limit := by
  have hperm : (oldestKeys age m).Perm m.keys := oldestKeys_perm
  have hlen : (oldestKeys age m).length = m.size := by
    rw [hperm.length_eq, ExtTreeMap.length_keys]
  have hnd : (oldestKeys age m).Nodup := hperm.nodup_iff.mpr ExtTreeMap.nodup_keys
  have hsize : (evictOldest age limit m).size =
      m.size - ((oldestKeys age m).take (m.size - limit)).length := by
    refine size_eraseAll (hnd.sublist (take_sublist _ _)) fun k hk => ?_
    exact ExtTreeMap.mem_keys.mp (hperm.mem_iff.mp (mem_of_mem_take hk))
  rw [hsize, length_take, hlen]
  omega

/-! ## Values without repeats -/

theorem nodup_column {α : Type} {p : V → Bool} {f : V → α} :
    (((valuesOf m).filter p).map f).Nodup ↔ ∀ (k k' : K) (v v' : V), m[k]? = some v →
    m[k']? = some v' →
      p v = true → p v' = true → f v = f v' → k = k' := by
  have hpair : (((valuesOf m).filter p).map f).Nodup ↔
      m.toList.Pairwise fun e e' => p e.2 = true → p e'.2 = true → f e.2 ≠ f e'.2 := by
    rw [List.Nodup, pairwise_map, pairwise_filter, valuesOf, pairwise_map]
  rw [hpair]
  constructor
  · intro hnd k k' v v' hk hk' hp hp' hf
    by_contra hne
    have hsymm : Std.Symm fun e e' : K × V => p e.2 = true → p e'.2 = true → f e.2 ≠ f e'.2 :=
      ⟨fun e e' h he he' heq => h he' he heq.symm⟩
    have hmem : (k, v) ∈ m.toList := ExtTreeMap.mem_toList_iff_getElem?_eq_some.mpr hk
    have hmem' : (k', v') ∈ m.toList := ExtTreeMap.mem_toList_iff_getElem?_eq_some.mpr hk'
    exact hnd.forall hmem hmem' (fun h => hne (congrArg Prod.fst h)) hp hp' hf
  · intro hinj
    refine ExtTreeMap.distinct_keys_toList.imp_of_mem fun {e e'} he he' hne hp hp' hf => ?_
    refine hne (LawfulEqCmp.compare_eq_iff_eq.mpr ?_)
    exact hinj _ _ _ _ (ExtTreeMap.mem_toList_iff_getElem?_eq_some.mp he)
      (ExtTreeMap.mem_toList_iff_getElem?_eq_some.mp he') hp hp' hf

end SpxSpark.Lib
