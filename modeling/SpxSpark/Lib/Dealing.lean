import Mathlib.Data.List.Sort

/-!
# Dealing — lists dealt into parts and put together again

Items are dealt, one after the other, onto piles; whatever the rule, the piles hold the items and
nothing else. Parts that share nothing hold each item once. A list cut into slices is their
concatenation.
-/

namespace SpxSpark.Lib

open List

variable {α : Type}

/-! ## Piles -/

/-- Each item in turn goes to the end of the pile its place names. -/
def deal (place : ℕ → ℕ) (count : ℕ) (items : List α) : List (List α) :=
  items.zipIdx.foldl (fun piles item => piles.modify (place item.2) (· ++ [item.1]))
    (List.replicate count [])

theorem flatten_modify_perm (x : α) : ∀ (piles : List (List α)) (n : ℕ), n < piles.length →
    ((piles.modify n (· ++ [x])).flatten).Perm (x :: piles.flatten)
  | [], _, h => absurd h (Nat.not_lt_zero _)
  | pile :: piles, 0, _ => by
      rw [modify_zero_cons, flatten_cons, flatten_cons, append_assoc]
      exact perm_middle
  | pile :: piles, n + 1, h => by
      rw [modify_succ_cons, flatten_cons, flatten_cons]
      have ih := flatten_modify_perm x piles n (Nat.lt_of_succ_lt_succ h)
      exact (ih.append_left pile).trans perm_middle

theorem deal_fold_perm (place : ℕ → ℕ) : ∀ (items : List (α × ℕ)) (piles : List (List α)),
    (∀ item ∈ items, place item.2 < piles.length) →
    ((items.foldl (fun piles item => piles.modify (place item.2) (· ++ [item.1]))
      piles).flatten).Perm (items.map Prod.fst ++ piles.flatten)
  | [], _, _ => List.Perm.refl _
  | item :: items, piles, h => by
      rw [foldl_cons]
      have hplace : place item.2 < piles.length := h item mem_cons_self
      have ih := deal_fold_perm place items (piles.modify (place item.2) (· ++ [item.1])) (by
        intro other hother
        rw [length_modify]
        exact h other (mem_cons_of_mem _ hother))
      have hstep := flatten_modify_perm item.1 piles _ hplace
      exact (ih.trans (hstep.append_left _)).trans perm_middle

theorem deal_perm {place : ℕ → ℕ} {count : ℕ} {items : List α}
    (h : ∀ i < items.length, place i < count) : ((deal place count items).flatten).Perm items := by
  have hperm := deal_fold_perm place items.zipIdx (List.replicate count []) (by
    intro item hitem
    rw [length_replicate]
    have hlt := (mem_zipIdx hitem).2.1
    exact h item.2 (by omega))
  rw [zipIdx_map_fst, flatten_replicate_nil, append_nil] at hperm
  exact hperm

/-! ## Parts that share nothing -/

theorem countP_mem_of_nodup_flatten [DecidableEq α] {x : α} : ∀ {parts : List (List α)},
    parts.flatten.Nodup → x ∈ parts.flatten → parts.countP (x ∈ ·) = 1
  | [], _, h => by cases h
  | part :: parts, hnodup, h => by
      rw [flatten_cons, nodup_append] at hnodup
      obtain ⟨-, hrest, hdisjoint⟩ := hnodup
      rw [flatten_cons, mem_append] at h
      by_cases hx : x ∈ part
      · have hnone : parts.countP (x ∈ ·) = 0 := by
          rw [countP_eq_zero]
          intro other hother hmem
          have hflat : x ∈ parts.flatten :=
            mem_flatten.mpr ⟨other, hother, of_decide_eq_true hmem⟩
          exact hdisjoint x hx x hflat rfl
        rw [countP_cons_of_pos (by simpa using hx), hnone]
      · rw [countP_cons_of_neg (by simpa using hx)]
        exact countP_mem_of_nodup_flatten hrest (h.resolve_left hx)

/-! ## Slices -/

/-- `items[i : i + size] for i in range(0, len(items), size)`: the list cut into slices. -/
def slices (size : Nat) : Nat → List α → List (List α)
  | 0, _ => []
  | fuel + 1, items =>
    if items.isEmpty then [] else items.take size :: slices size fuel (items.drop size)

theorem slices_sublist {size : Nat} {slice : List α} :
    ∀ {fuel items}, slice ∈ slices size fuel items → slice.Sublist items := by
  intro fuel
  induction fuel with
  | zero =>
    intro items h
    cases h
  | succ fuel ih =>
    intro items h
    unfold slices at h
    split at h
    · cases h
    · rcases mem_cons.mp h with rfl | h
      · exact take_sublist _ _
      · exact (ih h).trans (drop_sublist _ _)

theorem slices_length_le {size : Nat} {slice : List α} :
    ∀ {fuel : Nat} {items : List α}, slice ∈ slices size fuel items → slice.length ≤ size := by
  intro fuel
  induction fuel with
  | zero =>
    intro items h
    cases h
  | succ fuel ih =>
    intro items h
    unfold slices at h
    split at h
    · cases h
    · rcases mem_cons.mp h with rfl | h
      · simp
      · exact ih h

theorem slices_flatten {size : Nat} (hsize : 0 < size) :
    ∀ {fuel : Nat} {items : List α}, items.length ≤ fuel →
      (slices size fuel items).flatten = items := by
  intro fuel
  induction fuel with
  | zero =>
    intro items h
    rw [length_eq_zero_iff.mp (Nat.le_zero.mp h)]
    rfl
  | succ fuel ih =>
    intro items h
    unfold slices
    split
    · next hempty => exact (isEmpty_iff.mp hempty).symm
    · rw [flatten_cons, ih, take_append_drop]
      rw [length_drop]
      omega

/-! ## A stable sort by a yes-or-no key -/

theorem orderedInsert_flag (flag : α → Bool) (x : α) (no yes : List α)
    (hno : ∀ a ∈ no, flag a = false) (hyes : ∀ a ∈ yes, flag a = true) :
    List.orderedInsert (fun a b => flag a ≤ flag b) x (no ++ yes) =
      if flag x then no ++ x :: yes else x :: (no ++ yes) := by
  cases hx : flag x with
  | false =>
    rw [if_neg (by simp)]
    cases hlist : no ++ yes with
    | nil => rfl
    | cons b rest =>
      rw [orderedInsert_cons, if_pos (by rw [hx]; exact Bool.false_le _)]
  | true =>
    rw [if_pos rfl]
    induction no with
    | nil =>
      cases yes with
      | nil => rfl
      | cons b rest =>
        have hb : flag b = true := hyes b mem_cons_self
        rw [nil_append, orderedInsert_cons, if_pos (by rw [hx, hb])]
        rfl
    | cons a no ih =>
      have ha : flag a = false := hno a mem_cons_self
      rw [cons_append, orderedInsert_cons, if_neg (by rw [hx, ha]; decide), ih]
      · rfl
      · intro b hb
        exact hno b (mem_cons_of_mem _ hb)

theorem insertionSort_flag (flag : α → Bool) : ∀ items : List α,
    items.insertionSort (fun a b => flag a ≤ flag b) =
      items.filter (fun a => !flag a) ++ items.filter flag
  | [] => rfl
  | x :: items => by
      rw [insertionSort_cons, insertionSort_flag flag items, orderedInsert_flag]
      · cases hx : flag x <;> simp [hx]
      · intro a ha
        simpa using (mem_filter.mp ha).2
      · intro a ha
        exact (mem_filter.mp ha).2

end SpxSpark.Lib
