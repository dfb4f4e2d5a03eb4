import Mathlib.Data.List.Basic

/-!
# Slot — a slot that holds one item until it is cleared

A log of what happened to the slot: items put in, used while they are in, released and taken out.
-/

namespace SpxSpark.Lib

open List

variable {α : Type}

inductive SlotEvent (α : Type)
  | filled (a : α)
  | used (a : α)
  | released (a : α)
  | cleared (a : α)

/-- A log in which each event is about the item the slot holds, with the item held at its end. -/
inductive Orderly : List (SlotEvent α) → Option α → Prop
  | nil : Orderly [] none
  | fill {log : List (SlotEvent α)} (a : α) :
      Orderly log none → Orderly (log ++ [.filled a]) (some a)
  | use {log : List (SlotEvent α)} (a : α) :
      Orderly log (some a) → Orderly (log ++ [.used a]) (some a)
  | release {log : List (SlotEvent α)} (a : α) :
      Orderly log (some a) → Orderly (log ++ [.released a]) (some a)
  | clear {log : List (SlotEvent α)} (a : α) :
      Orderly log (some a) → log.getLast? = some (.released a) →
        Orderly (log ++ [.cleared a]) none

/-- The items put in, oldest first. -/
def fills (log : List (SlotEvent α)) : List α :=
  log.filterMap fun
    | .filled a => some a
    | _ => none

/-- The items used, oldest first, each as often as it was used. -/
def uses (log : List (SlotEvent α)) : List α :=
  log.filterMap fun
    | .used a => some a
    | _ => none

@[simp]
theorem fills_append {log log' : List (SlotEvent α)} :
    fills (log ++ log') = fills log ++ fills log' :=
  filterMap_append

@[simp]
theorem uses_append {log log' : List (SlotEvent α)} : uses (log ++ log') = uses log ++ uses log' :=
  filterMap_append

@[simp]
theorem fills_filled (a : α) : fills [SlotEvent.filled a] = [a] := rfl

@[simp]
theorem fills_used (a : α) : fills [SlotEvent.used a] = [] := rfl

@[simp]
theorem fills_released (a : α) : fills [SlotEvent.released a] = [] := rfl

@[simp]
theorem fills_cleared (a : α) : fills [SlotEvent.cleared a] = [] := rfl

@[simp]
theorem uses_filled (a : α) : uses [SlotEvent.filled a] = [] := rfl

@[simp]
theorem uses_used (a : α) : uses [SlotEvent.used a] = [a] := rfl

@[simp]
theorem uses_released (a : α) : uses [SlotEvent.released a] = [] := rfl

@[simp]
theorem uses_cleared (a : α) : uses [SlotEvent.cleared a] = [] := rfl

namespace Orderly

variable {log : List (SlotEvent α)} {held : Option α}

theorem last_fill (h : Orderly log held) {a : α} (ha : held = some a) :
    ∃ earlier, fills log = earlier ++ [a] := by
  induction h with
  | nil => cases ha
  | @fill log b _ _ =>
    cases ha
    exact ⟨fills log, by simp⟩
  | use b _ ih =>
    obtain ⟨earlier, heq⟩ := ih ha
    exact ⟨earlier, by simpa using heq⟩
  | release b _ ih =>
    obtain ⟨earlier, heq⟩ := ih ha
    exact ⟨earlier, by simpa using heq⟩
  | clear b _ _ => cases ha

theorem mem_uses (h : Orderly log held) {a : α} (ha : a ∈ uses log) : a ∈ fills log := by
  induction h with
  | nil => cases ha
  | fill b _ ih =>
    rw [uses_append, uses_filled, append_nil] at ha
    rw [fills_append]
    exact mem_append_left _ (ih ha)
  | use b hlog ih =>
    rw [uses_append, uses_used] at ha
    rw [fills_append, fills_used, append_nil]
    rcases mem_append.mp ha with ha | ha
    · exact ih ha
    · obtain ⟨earlier, heq⟩ := hlog.last_fill rfl
      rw [mem_singleton.mp ha, heq]
      simp
  | release b _ ih =>
    rw [uses_append, uses_released, append_nil] at ha
    rw [fills_append, fills_released, append_nil]
    exact ih ha
  | clear b _ _ ih =>
    rw [uses_append, uses_cleared, append_nil] at ha
    rw [fills_append, fills_cleared, append_nil]
    exact ih ha

/-- **Uses keep the order of the fills.** If the items were put in along `R`, of two uses the
earlier is of the same item or `R`-before the later. -/
theorem uses_pairwise {R : α → α → Prop} (h : Orderly log held)
    (hfills : (fills log).Pairwise R) : (uses log).Pairwise fun a b => a = b ∨ R a b := by
  induction h with
  | nil => exact List.Pairwise.nil
  | fill b _ ih =>
    rw [uses_append, uses_filled, append_nil]
    rw [fills_append, pairwise_append] at hfills
    exact ih hfills.1
  | use b hlog ih =>
    rw [fills_append, fills_used, append_nil] at hfills
    rw [uses_append, uses_used, pairwise_append]
    refine ⟨ih hfills, pairwise_singleton _ _, ?_⟩
    -- The item in use is the last one put in; every earlier use was put in before it.
    obtain ⟨earlier, heq⟩ := hlog.last_fill rfl
    intro a ha c hc
    rw [mem_singleton.mp hc]
    have hmem := hlog.mem_uses ha
    rw [heq, pairwise_append] at hfills
    rw [heq] at hmem
    rcases mem_append.mp hmem with hmem | hmem
    · exact .inr (hfills.2.2 a hmem b (mem_singleton_self _))
    · exact .inl (mem_singleton.mp hmem)
  | release b _ ih =>
    rw [uses_append, uses_released, append_nil]
    rw [fills_append, fills_released, append_nil] at hfills
    exact ih hfills
  | clear b _ _ ih =>
    rw [uses_append, uses_cleared, append_nil]
    rw [fills_append, fills_cleared, append_nil] at hfills
    exact ih hfills

end Orderly

/-! ## Delivery in order -/

/-- Each item sent, in its turn, arrives any number of times. -/
inductive Repeats : List α → List α → Prop
  | nil : Repeats [] []
  | next {sent got : List α} (a : α) : Repeats sent got → Repeats (a :: sent) got
  | again {sent got : List α} (a : α) : Repeats (a :: sent) got → Repeats (a :: sent) (a :: got)

namespace Repeats

variable {sent got : List α}

theorem mem (h : Repeats sent got) {a : α} (ha : a ∈ got) : a ∈ sent := by
  induction h with
  | nil => exact ha
  | next b _ ih => exact mem_cons_of_mem b (ih ha)
  | again b _ ih =>
    rcases mem_cons.mp ha with rfl | ha
    · simp
    · exact ih ha

theorem pairwise {R : α → α → Prop} (hrefl : ∀ a, R a a) (h : Repeats sent got)
    (hsent : sent.Pairwise R) : got.Pairwise R := by
  induction h with
  | nil => exact List.Pairwise.nil
  | next b _ ih => exact ih (pairwise_cons.mp hsent).2
  | again b hrest ih =>
    refine pairwise_cons.mpr ⟨fun c hc => ?_, ih hsent⟩
    rcases mem_cons.mp (hrest.mem hc) with rfl | hc
    · exact hrefl c
    · exact (pairwise_cons.mp hsent).1 c hc

theorem once : ∀ sent : List α, Repeats sent sent
  | [] => .nil
  | a :: rest => .again a (.next a (once rest))

end Repeats

end SpxSpark.Lib
