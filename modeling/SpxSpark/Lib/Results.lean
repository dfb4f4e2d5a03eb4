import Mathlib.Data.List.Basic

/-!
# Results — calls that may fail

What is known once a sequence of calls has returned, and the search for the first item of a list
that a call finds something for, where looking at an item may fail.
-/

namespace SpxSpark.Lib

open List

variable {ε α β : Type}

/-! ## Sequences and choices -/

theorem of_bind_ok {x : Except ε α} {f : α → Except ε β} {b : β}
    (h : x >>= f = .ok b) : ∃ a, x = .ok a ∧ f a = .ok b := by
  cases x with
  | error error => cases h
  | ok a => exact ⟨a, rfl, h⟩

theorem bind_of_ok (a : α) (f : α → Except ε β) : Except.ok a >>= f = f a := rfl

theorem of_ite {p : Prop} [Decidable p] {x y z : α} {P : Prop}
    (h : (if p then x else y) = z) (hthen : x = z → P) (helse : y = z → P) : P := by
  by_cases hp : p
  · exact hthen (by rw [← h, if_pos hp])
  · exact helse (by rw [← h, if_neg hp])

theorem eraseDups_nil_iff [BEq α] {l : List α} : l.eraseDups = [] ↔ l = [] := by
  cases l with
  | nil => simp
  | cons a l => simp [eraseDups_cons]

/-! ## The first that is live -/

/-- What is found for the first item that is live. -/
def findLive (live : α → Except ε (Option β)) : List α → Except ε (Option β)
  | [] => .ok none
  | item :: rest => do
      match ← live item with
      | some found => .ok (some found)
      | none => findLive live rest

variable {live : α → Except ε (Option β)} {items : List α} {found : β}

/-- Nothing is found for any of the items. -/
def NoneLive (live : α → Except ε (Option β)) (items : List α) : Prop :=
  ∀ item ∈ items, live item = .ok none

/-- The first of the items that is live. -/
def FirstLive (live : α → Except ε (Option β)) (items : List α) (found : β) : Prop :=
  ∃ before item after, items = before ++ item :: after ∧ NoneLive live before ∧
    live item = .ok (some found)

theorem findLive_none_iff : findLive live items = .ok none ↔ NoneLive live items := by
  induction items with
  | nil => exact ⟨fun _ item hitem => absurd hitem not_mem_nil, fun _ => rfl⟩
  | cons item rest ih =>
    unfold NoneLive at ih ⊢
    rw [forall_mem_cons, ← ih]
    constructor
    · intro h
      obtain ⟨found, hlive, h⟩ := of_bind_ok h
      cases found with
      | some found => cases h
      | none => exact ⟨hlive, h⟩
    · rintro ⟨hlive, hrest⟩
      unfold findLive
      rw [hlive, bind_of_ok]
      exact hrest

theorem findLive_some_iff : findLive live items = .ok (some found) ↔
    FirstLive live items found := by
  induction items with
  | nil =>
    constructor
    · intro h
      cases h
    · rintro ⟨before, item, after, hitems, _⟩
      exact absurd hitems.symm (by simp)
  | cons item rest ih =>
    constructor
    · intro h
      obtain ⟨first, hlive, h⟩ := of_bind_ok h
      cases first with
      | some first =>
        obtain rfl := Option.some.inj (Except.ok.inj h)
        exact ⟨[], item, rest, rfl, fun _ h => absurd h not_mem_nil, hlive⟩
      | none =>
        obtain ⟨before, other, after, hrest, hbefore, hother⟩ := ih.mp h
        refine ⟨item :: before, other, after, ?_, ?_, hother⟩
        · rw [hrest, cons_append]
        · exact forall_mem_cons.mpr ⟨hlive, hbefore⟩
    · rintro ⟨before, other, after, hitems, hbefore, hother⟩
      unfold findLive
      cases before with
      | nil =>
        obtain ⟨rfl, rfl⟩ := List.cons.inj hitems
        rw [hother]
        rfl
      | cons first before =>
        obtain ⟨rfl, rfl⟩ := List.cons.inj hitems
        rw [(forall_mem_cons.mp hbefore).1, bind_of_ok]
        exact ih.mpr ⟨before, other, after, rfl, (forall_mem_cons.mp hbefore).2, hother⟩

end SpxSpark.Lib
