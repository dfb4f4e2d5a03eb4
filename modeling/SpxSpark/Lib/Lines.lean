import Mathlib.Algebra.Order.BigOperators.Group.List
import Mathlib.Algebra.Order.Group.Nat
import Mathlib.Data.List.Perm.Basic

/-!
# Lines — a stream cut after every separator

`pieces` cuts a stream the way a buffered reader does that reads up to the next separator: each
piece but perhaps the last ends in its only separator. A list of parts, each under its heading, is
cut at the headings.
-/

namespace SpxSpark.Lib

open List

variable {α : Type} [DecidableEq α] {sep : α}

/-- The stream cut after every separator. -/
def pieces (sep : α) : List α → List (List α)
  | [] => []
  | a :: rest =>
    if a = sep then [a] :: pieces sep rest
    else
      match pieces sep rest with
      | [] => [[a]]
      | piece :: more => (a :: piece) :: more

/-- A piece that ends in its only separator. -/
def Complete (sep : α) (piece : List α) : Prop := ∃ body, piece = body ++ [sep] ∧ sep ∉ body

@[simp]
theorem pieces_nil : pieces sep [] = [] := rfl

theorem pieces_cons_sep (rest : List α) : pieces sep (sep :: rest) = [sep] :: pieces sep rest := by
  rw [pieces, if_pos rfl]

theorem pieces_flatten (stream : List α) : (pieces sep stream).flatten = stream := by
  induction stream with
  | nil => rfl
  | cons a rest ih =>
    rw [pieces]
    split
    · rw [flatten_cons, ih]
      rfl
    · split
      · rename_i hnil
        rw [hnil] at ih
        rw [← ih]
        rfl
      · rename_i hcons
        rw [hcons, flatten_cons] at ih
        rw [flatten_cons, cons_append, ih]

variable {stream piece : List α}

theorem ne_nil_of_mem_pieces (h : piece ∈ pieces sep stream) : piece ≠ [] := by
  induction stream generalizing piece with
  | nil => cases h
  | cons a rest ih =>
    rw [pieces] at h
    split at h
    · rcases mem_cons.mp h with rfl | h
      · simp
      · exact ih h
    · split at h
      · rw [mem_singleton.mp h]
        simp
      · rename_i hcons
        rcases mem_cons.mp h with rfl | h
        · simp
        · exact ih (hcons ▸ mem_cons_of_mem _ h)

theorem pieces_ne_nil (h : stream ≠ []) : pieces sep stream ≠ [] := by
  intro hnil
  have hstream := @pieces_flatten _ _ sep stream
  rw [hnil, flatten_nil] at hstream
  exact h hstream.symm

theorem length_pieces_le (stream : List α) : (pieces sep stream).length ≤ stream.length := by
  have hsum : ∀ cut : List (List α), (∀ piece ∈ cut, piece ≠ []) →
      cut.length ≤ cut.flatten.length := by
    intro cut hcut
    induction cut with
    | nil => exact Nat.le_refl 0
    | cons piece more ih =>
      have hpos := length_pos_iff.mpr (hcut piece mem_cons_self)
      have hmore := ih fun p hp => hcut p (mem_cons_of_mem _ hp)
      rw [flatten_cons, length_append, length_cons]
      omega
  have hlength := hsum (pieces sep stream) fun _ hp => ne_nil_of_mem_pieces hp
  rwa [pieces_flatten] at hlength

theorem pieces_complete_append (h : Complete sep piece) (rest : List α) :
    pieces sep (piece ++ rest) = piece :: pieces sep rest := by
  obtain ⟨body, rfl, hbody⟩ := h
  induction body with
  | nil => exact pieces_cons_sep rest
  | cons a body ih =>
    rw [mem_cons, not_or] at hbody
    rw [cons_append, cons_append, pieces, if_neg (Ne.symm hbody.1), ih hbody.2]

variable {written : List (List α)}

/-- **What is written piece by piece is cut back into the same pieces.** -/
theorem pieces_flatten_append (h : ∀ piece ∈ written, Complete sep piece) (rest : List α) :
    pieces sep (written.flatten ++ rest) = written ++ pieces sep rest := by
  induction written with
  | nil => rfl
  | cons piece more ih =>
    rw [flatten_cons, append_assoc,
      pieces_complete_append (h piece mem_cons_self),
      ih fun p hp => h p (mem_cons_of_mem _ hp)]
    rfl

theorem pieces_append_complete (h : ∀ p ∈ pieces sep stream, Complete sep p)
    (hpiece : Complete sep piece) :
    pieces sep (stream ++ piece) = pieces sep stream ++ [piece] := by
  have hcut := pieces_flatten_append h piece
  have hlast := pieces_complete_append hpiece []
  rw [append_nil, pieces_nil] at hlast
  rw [pieces_flatten, hlast] at hcut
  exact hcut

theorem complete_of_mem_pieces (h : piece ∈ pieces sep stream) (hlast : piece.getLast? = some sep) :
    Complete sep piece := by
  induction stream generalizing piece with
  | nil => cases h
  | cons a rest ih =>
    rw [pieces] at h
    split at h
    · rename_i ha
      rcases mem_cons.mp h with rfl | h
      · exact ⟨[], by rw [ha]; rfl, not_mem_nil⟩
      · exact ih h hlast
    · rename_i ha
      split at h
      · rw [mem_singleton] at h
        rw [h, getLast?_singleton, Option.some.injEq] at hlast
        exact absurd hlast ha
      · rename_i first more hcons
        rcases mem_cons.mp h with rfl | h
        · cases first with
          | nil =>
            rw [getLast?_singleton, Option.some.injEq] at hlast
            exact absurd hlast ha
          | cons b first =>
            rw [getLast?_cons_cons] at hlast
            obtain ⟨body, hbody, hmem⟩ := ih (hcons ▸ mem_cons_self) hlast
            refine ⟨a :: body, by rw [hbody]; rfl, ?_⟩
            rw [mem_cons, not_or]
            exact ⟨Ne.symm ha, hmem⟩
        · exact ih (hcons ▸ mem_cons_of_mem _ h) hlast

/-- **The separators of a stream of complete pieces are as many as the pieces.** -/
theorem count_flatten_complete (h : ∀ piece ∈ written, Complete sep piece) :
    written.flatten.count sep = written.length := by
  induction written with
  | nil => rfl
  | cons piece more ih =>
    obtain ⟨body, rfl, hbody⟩ := h piece mem_cons_self
    rw [flatten_cons, count_append, count_append, count_eq_zero.mpr hbody,
      count_singleton_self, ih fun p hp => h p (mem_cons_of_mem _ hp),
      length_cons]
    omega

omit [DecidableEq α] in
theorem getLast?_flatten_complete (h : ∀ piece ∈ written, Complete sep piece) (hne : written ≠ []) :
    written.flatten.getLast? = some sep := by
  obtain ⟨before, last, rfl⟩ := eq_nil_or_concat written |>.resolve_left hne
  rw [concat_eq_append] at h ⊢
  obtain ⟨body, rfl, -⟩ := h last (by simp)
  simp

/-! ## Streams under an index -/

omit [DecidableEq α] in
theorem flatMap_perm_concat {ι : Type} {is : List ι} {i : ι} {f g : ι → List α} {a : α}
    (hnodup : is.Nodup) (hi : i ∈ is) (hother : ∀ j ∈ is, j ≠ i → g j = f j)
    (hgrown : g i = f i ++ [a]) : (is.flatMap g).Perm (is.flatMap f ++ [a]) := by
  induction is with
  | nil => cases hi
  | cons j rest ih =>
    rw [nodup_cons] at hnodup
    rw [flatMap_cons, flatMap_cons, append_assoc]
    rcases mem_cons.mp hi with rfl | hrest
    · have hsame : rest.flatMap g = rest.flatMap f :=
        flatMap_congr fun k hk =>
          hother k (mem_cons_of_mem _ hk) fun heq => hnodup.1 (heq ▸ hk)
      rw [hgrown, hsame, append_assoc]
      exact (perm_append_comm).append_left _
    · rw [hother j mem_cons_self fun heq => hnodup.1 (heq ▸ hrest)]
      exact (ih hnodup.2 hrest fun k hk => hother k (mem_cons_of_mem _ hk)).append_left _

/-! ## Lines of a text -/

/-- Where `str.splitlines` breaks. -/
def isLineBreak (c : Char) : Bool :=
  (10 ≤ c.toNat && c.toNat ≤ 13) || (28 ≤ c.toNat && c.toNat ≤ 30) || c.toNat == 0x85
    || c.toNat == 0x2028 || c.toNat == 0x2029

/-- The lines of a text whose first line goes on behind what was already read of it. -/
def splitlinesFrom (line : List Char) : List Char → List (List Char)
  | [] => if line = [] then [] else [line]
  | '\r' :: '\n' :: rest => line :: splitlinesFrom [] rest
  | c :: rest =>
    if isLineBreak c then line :: splitlinesFrom [] rest else splitlinesFrom (line ++ [c]) rest

/-- `str.splitlines`. -/
def splitlines (text : List Char) : List (List Char) := splitlinesFrom [] text

/-- No character breaks the line. -/
def IsLine (text : List Char) : Prop := ∀ c ∈ text, isLineBreak c = false

/-- Lines, each with its newline. -/
def joinLines (lines : List (List Char)) : List Char := lines.flatMap fun line => line ++ ['\n']

theorem splitlinesFrom_line {body : List Char} (hbody : IsLine body) (line rest : List Char) :
    splitlinesFrom line (body ++ rest) = splitlinesFrom (line ++ body) rest := by
  induction body generalizing line with
  | nil => rw [nil_append, append_nil]
  | cons c body ih =>
    have hc : isLineBreak c = false := hbody c mem_cons_self
    have hreturn : c ≠ '\r' := by
      rintro rfl
      exact absurd hc (by decide)
    rw [cons_append, splitlinesFrom.eq_3]
    · rw [if_neg (by rw [hc]; decide), ih (fun d hd => hbody d (mem_cons_of_mem c hd)),
        append_assoc]
      rfl
    · intro rest' hcr
      exact absurd hcr hreturn

theorem splitlines_joinLines {lines : List (List Char)} (hlines : ∀ line ∈ lines, IsLine line)
    (tail : List Char) : splitlines (joinLines lines ++ tail) = lines ++ splitlines tail := by
  induction lines with
  | nil => rfl
  | cons line lines ih =>
    have hrest := ih fun other hother => hlines other (mem_cons_of_mem line hother)
    unfold splitlines joinLines at hrest ⊢
    rw [flatMap_cons, append_assoc, append_assoc,
      splitlinesFrom_line (hlines line mem_cons_self)]
    exact congrArg (line :: ·) hrest

theorem splitlines_line {line : List Char} (hline : IsLine line) (hne : line ≠ []) :
    splitlines line = [line] := by
  have h := splitlinesFrom_line hline [] []
  rw [append_nil, nil_append] at h
  unfold splitlines
  rw [h, splitlinesFrom, if_neg hne]

/-! ## Parts under their headings -/

section

variable {α : Type} {heads : α → Bool}

/-- Each part under its heading. -/
def headed (entries : List (α × List α)) : List α := entries.flatMap fun entry => entry.1 :: entry.2

variable {entries : List (α × List α)}

theorem splitOnP_headed (hheads : ∀ entry ∈ entries, heads entry.1 = true)
    (hparts : ∀ entry ∈ entries, ∀ line ∈ entry.2, heads line = false) (first : List α)
    (hfirst : ∀ line ∈ first, heads line = false) :
    (first ++ headed entries).splitOnP heads = first :: entries.map (·.2) := by
  induction entries generalizing first with
  | nil =>
    show (first ++ []).splitOnP heads = [first]
    rw [append_nil, splitOnP_eq_singleton hfirst]
  | cons entry rest ih =>
    obtain ⟨hhead, hheads⟩ := forall_mem_cons.mp hheads
    obtain ⟨hpart, hparts⟩ := forall_mem_cons.mp hparts
    show (first ++ entry.1 :: (entry.2 ++ headed rest)).splitOnP heads = _
    rw [splitOnP_append_cons_of_forall_mem hfirst _ hhead, ih hheads hparts entry.2 hpart,
      map_cons]

theorem filter_headed (hheads : ∀ entry ∈ entries, heads entry.1 = true)
    (hparts : ∀ entry ∈ entries, ∀ line ∈ entry.2, heads line = false) :
    (headed entries).filter heads = entries.map (·.1) := by
  induction entries with
  | nil => rfl
  | cons entry rest ih =>
    obtain ⟨hhead, hheads⟩ := forall_mem_cons.mp hheads
    obtain ⟨hpart, hparts⟩ := forall_mem_cons.mp hparts
    have hnone : entry.2.filter heads = [] :=
      filter_eq_nil_iff.mpr fun line hline => by rw [hpart line hline]; decide
    show (entry.1 :: (entry.2 ++ headed rest)).filter heads = _
    rw [filter_cons_of_pos hhead, filter_append, hnone, nil_append,
      ih hheads hparts, map_cons]

theorem parts_of_countP (hheads : ∀ entry ∈ entries, heads entry.1 = true)
    (hcount : (headed entries).countP heads ≤ entries.length) :
    ∀ entry ∈ entries, ∀ line ∈ entry.2, heads line = false := by
  have hcounts : (headed entries).countP heads =
      entries.length + (entries.map fun entry => entry.2.countP heads).sum := by
    clear hcount
    induction entries with
    | nil => rfl
    | cons entry rest ih =>
      obtain ⟨hhead, hheads⟩ := forall_mem_cons.mp hheads
      show (entry.1 :: (entry.2 ++ headed rest)).countP heads = _
      rw [countP_cons_of_pos hhead, countP_append, ih hheads, length_cons,
        map_cons, sum_cons]
      omega
  intro entry hentry line hline
  have hle := single_le_sum (fun _ _ => Nat.zero_le _) _
    (mem_map_of_mem (f := fun entry : α × List α => entry.2.countP heads) hentry)
  have hzero : entry.2.countP heads = 0 := by omega
  exact Bool.eq_false_iff.mpr (countP_eq_zero.mp hzero line hline)

end

end SpxSpark.Lib
