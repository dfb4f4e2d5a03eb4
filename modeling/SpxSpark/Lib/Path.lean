import Mathlib.Data.List.Basic

/-!
# Path — sequences of labelled moves

The abstract side of a refinement: a relation `move l s t` for each label `l`, and the paths it
generates.
-/

namespace SpxSpark.Lib

variable {ℓ σ : Type}

/-- The labels taken, in order, between two states. -/
inductive Path (move : ℓ → σ → σ → Prop) : List ℓ → σ → σ → Prop
  | nil (s : σ) : Path move [] s s
  | cons {l : ℓ} {ls : List ℓ} {s t u : σ} :
      move l s t → Path move ls t u → Path move (l :: ls) s u

namespace Path

variable {move : ℓ → σ → σ → Prop} {l : ℓ} {ls ms : List ℓ} {s t u : σ}

theorem single (h : move l s t) : Path move [l] s t := .cons h (.nil t)

theorem append (h : Path move ls s t) (h' : Path move ms t u) : Path move (ls ++ ms) s u := by
  induction h with
  | nil => exact h'
  | cons hm _ ih => exact .cons hm (ih h')

theorem keeps {I : σ → Prop} (hmove : ∀ l ∈ ls, ∀ s t, move l s t → I s → I t)
    (h : Path move ls s t) (hs : I s) : I t := by
  induction h with
  | nil => exact hs
  | cons hm _ ih =>
    refine ih (fun l hl => hmove l (List.mem_cons_of_mem _ hl)) ?_
    exact hmove _ (List.mem_cons_self ..) _ _ hm hs

theorem relates {R : σ → σ → Prop} (hrefl : ∀ s, R s s)
    (htrans : ∀ {a b c}, R a b → R b c → R a c) (hmove : ∀ l ∈ ls, ∀ s t, move l s t → R s t)
    (h : Path move ls s t) : R s t := by
  induction h with
  | nil s => exact hrefl s
  | cons hm _ ih =>
    have hfirst := hmove _ (List.mem_cons_self ..) _ _ hm
    exact htrans hfirst (ih fun l hl => hmove l (List.mem_cons_of_mem _ hl))

end Path

/-- A path all of whose labels satisfy `P`. -/
def Steps (move : ℓ → σ → σ → Prop) (P : ℓ → Prop) (s t : σ) : Prop :=
  ∃ ls, Path move ls s t ∧ ∀ l ∈ ls, P l

namespace Steps

variable {move : ℓ → σ → σ → Prop} {P P' : ℓ → Prop} {l : ℓ} {s t u : σ}

theorem refl (s : σ) : Steps move P s s := ⟨[], .nil s, by simp⟩

theorem single (h : move l s t) (hl : P l) : Steps move P s t :=
  ⟨[l], .single h, by simpa using hl⟩

theorem trans (h : Steps move P s t) (h' : Steps move P t u) : Steps move P s u := by
  obtain ⟨ls, hls, hp⟩ := h
  obtain ⟨ms, hms, hp'⟩ := h'
  refine ⟨ls ++ ms, hls.append hms, ?_⟩
  intro l hl
  rcases List.mem_append.mp hl with hl | hl
  · exact hp l hl
  · exact hp' l hl

theorem mono (hP : ∀ l, P l → P' l) (h : Steps move P s t) : Steps move P' s t := by
  obtain ⟨ls, hls, hp⟩ := h
  exact ⟨ls, hls, fun l hl => hP l (hp l hl)⟩

theorem keeps {I : σ → Prop} (hmove : ∀ l, P l → ∀ s t, move l s t → I s → I t)
    (h : Steps move P s t) (hs : I s) : I t := by
  obtain ⟨ls, hls, hp⟩ := h
  exact hls.keeps (fun l hl => hmove l (hp l hl)) hs

theorem relates {R : σ → σ → Prop} (hrefl : ∀ s, R s s)
    (htrans : ∀ {a b c}, R a b → R b c → R a c) (hmove : ∀ l, P l → ∀ s t, move l s t → R s t)
    (h : Steps move P s t) : R s t := by
  obtain ⟨ls, hls, hp⟩ := h
  exact hls.relates hrefl htrans fun l hl => hmove l (hp l hl)

end Steps

end SpxSpark.Lib
