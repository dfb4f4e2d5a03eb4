import Mathlib.Data.List.Perm.Basic
import Mathlib.Order.Basic

/-!
# MergeTree — merging rows pairwise, in any order and any grouping

A merge of two rows that keeps, for one group of fields, those of the row with the larger key, picks
the row with the largest key of all, however the rows are grouped.
-/

namespace SpxSpark.Lib

variable {α κ β ε : Type}

/-- An order and a grouping of merges. -/
inductive MergeTree (α : Type)
  | row (value : α)
  | node (left right : MergeTree α)

namespace MergeTree

/-- The rows that are merged, in order. -/
def rows : MergeTree α → List α
  | row value => [value]
  | node left right => left.rows ++ right.rows

/-- The merges are made, and may fail. -/
def fold (merge : α → α → Except ε α) : MergeTree α → Except ε α
  | row value => .ok value
  | node left right => do merge (← fold merge left) (← fold merge right)

theorem fold_node {merge : α → α → Except ε α} {left right : MergeTree α} {result : α} :
    fold merge (node left right) = .ok result ↔
      ∃ a b, fold merge left = .ok a ∧ fold merge right = .ok b ∧ merge a b = .ok result := by
  show (fold merge left >>= fun a => fold merge right >>= fun b => merge a b) = _ ↔ _
  cases hl : fold merge left with
  | error e => exact ⟨nofun, fun ⟨_, _, h, _⟩ => nomatch h⟩
  | ok a =>
    cases hr : fold merge right with
    | error e => exact ⟨nofun, fun ⟨_, _, _, h, _⟩ => nomatch h⟩
    | ok b =>
      constructor
      · exact fun h => ⟨a, b, rfl, rfl, h⟩
      · rintro ⟨a', b', ha, hb, h⟩
        cases ha
        cases hb
        exact h

theorem fold_induction {merge : α → α → Except ε α} {I : List α → α → Prop}
    (hrow : ∀ a, I [a] a)
    (hnode : ∀ l r a b m, I l a → I r b → merge a b = .ok m → I (l ++ r) m)
    {tree : MergeTree α} {result : α} (h : fold merge tree = .ok result) : I tree.rows result := by
  induction tree generalizing result with
  | row value =>
    cases h
    exact hrow value
  | node left right ihl ihr =>
    obtain ⟨a, b, ha, hb, hm⟩ := fold_node.mp h
    exact hnode _ _ a b result (ihl ha) (ihr hb) hm

end MergeTree

/-! ## Picking by a key -/

section Picks

variable [PartialOrder κ] {key : α → κ} {val : α → β} {m m' a b : α} {l r : List α}

/-- The result has the key and the fields of a row that no row exceeds. -/
def Picks (key : α → κ) (val : α → β) (m : α) (rows : List α) : Prop :=
  ∃ best ∈ rows, (∀ row ∈ rows, key row ≤ key best) ∧ key m = key best ∧ val m = val best

theorem Picks.row (a : α) : Picks key val a [a] :=
  ⟨a, List.mem_singleton_self a, fun _ hrow => (List.mem_singleton.mp hrow) ▸ le_rfl, rfl, rfl⟩

theorem Picks.node (h : Picks key val m [a, b]) (hl : Picks key val a l) (hr : Picks key val b r) :
    Picks key val m (l ++ r) := by
  obtain ⟨x, hx, hxmax, hxkey, hxval⟩ := hl
  obtain ⟨y, hy, hymax, hykey, hyval⟩ := hr
  obtain ⟨best, hbest, hmax, hkey, hval⟩ := h
  have ha : key x ≤ key best := hxkey ▸ hmax a (List.mem_cons_self)
  have hb : key y ≤ key best := hykey ▸ hmax b (List.mem_cons_of_mem _ (List.mem_singleton_self b))
  have hover : ∀ row ∈ l ++ r, key row ≤ key best := by
    intro row hrow
    rcases List.mem_append.mp hrow with hrow | hrow
    · exact (hxmax row hrow).trans ha
    · exact (hymax row hrow).trans hb
  rcases List.mem_pair.mp hbest with rfl | rfl
  · exact ⟨x, List.mem_append_left _ hx, hxkey ▸ hover, hkey.trans hxkey, hval.trans hxval⟩
  · exact ⟨y, List.mem_append_right _ hy, hykey ▸ hover, hkey.trans hykey, hval.trans hyval⟩

theorem Picks.fold {merge : α → α → Except ε α}
    (hmerge : ∀ a b m, merge a b = .ok m → Picks key val m [a, b])
    {tree : MergeTree α} {result : α} (h : tree.fold merge = .ok result) :
    Picks key val result tree.rows :=
  MergeTree.fold_induction (I := fun rows result => Picks key val result rows) Picks.row
    (fun _ _ _ _ _ hl hr hm => (hmerge _ _ _ hm).node hl hr) h

theorem Picks.unique (h : Picks key val m l) (h' : Picks key val m' r) (hperm : l.Perm r)
    (hties : ∀ x ∈ l, ∀ y ∈ l, key x = key y → val x = val y) :
    key m = key m' ∧ val m = val m' := by
  obtain ⟨x, hx, hxmax, hxkey, hxval⟩ := h
  obtain ⟨y, hy, hymax, hykey, hyval⟩ := h'
  have hy' := hperm.mem_iff.mpr hy
  have hsame : key x = key y := le_antisymm (hymax x (hperm.mem_iff.mp hx)) (hxmax y hy')
  exact ⟨by rw [hxkey, hykey, hsame], by rw [hxval, hyval, hties x hx y hy' hsame]⟩

end Picks

end SpxSpark.Lib
