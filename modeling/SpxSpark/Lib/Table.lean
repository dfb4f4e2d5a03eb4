import Mathlib.Data.List.Basic
import Mathlib.Data.List.Pairwise

/-!
# Table — relational tables that cannot hold a bad row

A `Schema` fixes a table's row CHECK and which two rows share a primary or unique key. A `Table` is
a list of rows in insertion order together with the proofs that every row passes the CHECK and that
no two rows clash, so a stored row never has to be checked again.
-/

namespace SpxSpark.Lib

open List

variable {Row Key : Type}

/-- Constraints of a table: a CHECK on each row, and the clash relation of its unique keys. -/
structure Schema (Row Key : Type) where
  check : Row → Bool
  key : Row → Key
  clash : Key → Key → Bool

/-- The constraint a refused statement violates. -/
inductive ConstraintError
  | check
  | unique
  deriving DecidableEq

/-- Rows in insertion order, each checked, no two sharing a key. -/
structure Table (S : Schema Row Key) where
  rows : List Row
  checked : ∀ r ∈ rows, S.check r = true
  distinct : rows.Pairwise fun a b => S.clash (S.key a) (S.key b) = false

namespace Table

variable {S : Schema Row Key}

variable {t : Table S}

@[ext]
theorem ext {u : Table S} (h : t.rows = u.rows) : t = u := by
  cases t
  cases u
  cases h
  rfl

def empty : Table S where
  rows := []
  checked := by simp
  distinct := List.Pairwise.nil

/-- `INSERT`: appends a row that passes the CHECK and clashes with no stored row. -/
def insert (t : Table S) (r : Row) : Except ConstraintError (Table S) :=
  if hc : S.check r = true then
    if hu : ∀ a ∈ t.rows, S.clash (S.key a) (S.key r) = false then
      .ok
        { rows := t.rows ++ [r]
          checked := by
            intro x hx
            rcases mem_append.mp hx with h | h
            · exact t.checked x h
            · rw [mem_singleton.mp h]
              exact hc
          distinct := by
            rw [pairwise_append]
            refine ⟨t.distinct, pairwise_singleton _ _, ?_⟩
            intro a ha b hb
            rw [mem_singleton.mp hb]
            exact hu a ha }
    else .error .unique
  else .error .check

/-- `INSERT OR IGNORE`: a row that violates a constraint is skipped; says whether one was added. -/
def insertOrIgnore (t : Table S) (r : Row) : Bool × Table S :=
  match t.insert r with
  | .ok t' => (true, t')
  | .error _ => (false, t)

/-- Appends a row known to pass the CHECK and to clash with no stored row. -/
def append (t : Table S) (r : Row) (hc : S.check r = true)
    (hu : ∀ a ∈ t.rows, S.clash (S.key a) (S.key r) = false) : Table S where
  rows := t.rows ++ [r]
  checked := by
    intro x hx
    rcases mem_append.mp hx with h | h
    · exact t.checked x h
    · rw [mem_singleton.mp h]
      exact hc
  distinct := by
    rw [pairwise_append]
    refine ⟨t.distinct, pairwise_singleton _ _, ?_⟩
    intro a ha b hb
    rw [mem_singleton.mp hb]
    exact hu a ha

/-- The row an `UPDATE` leaves where `r` stood. -/
def rewrite (p : Row → Bool) (f : Row → Row) (r : Row) : Row := if p r then f r else r

/-- `UPDATE … WHERE p`: rewrites every matching row by `f` and counts them. -/
def update (t : Table S) (p : Row → Bool) (f : Row → Row) :
    Except ConstraintError (Nat × Table S) :=
  if hc : ∀ r ∈ t.rows.map (rewrite p f), S.check r = true then
    if hd : (t.rows.map (rewrite p f)).Pairwise fun a b => S.clash (S.key a) (S.key b) = false then
      .ok (t.rows.countP p, ⟨t.rows.map (rewrite p f), hc, hd⟩)
    else .error .unique
  else .error .check

/-- An `UPDATE` that keeps the keys and the CHECK of every row cannot fail. -/
def modify (t : Table S) (p : Row → Bool) (f : Row → Row)
    (hc : ∀ r, S.check r = true → S.check (f r) = true) (hk : ∀ r, S.key (f r) = S.key r) :
    Table S where
  rows := t.rows.map (rewrite p f)
  checked := by
    intro x hx
    obtain ⟨r, hr, rfl⟩ := mem_map.mp hx
    unfold rewrite
    split
    · exact hc r (t.checked r hr)
    · exact t.checked r hr
  distinct := by
    have hkey : ∀ r, S.key (rewrite p f r) = S.key r := by
      intro r
      unfold rewrite
      split
      · exact hk r
      · rfl
    rw [pairwise_map]
    refine t.distinct.imp ?_
    intro a b hab
    rw [hkey, hkey]
    exact hab

variable {r : Row}

variable {p : Row → Bool} {f : Row → Row}

/-! ## What a statement that succeeded did -/

theorem insert_ok {t' : Table S} (h : t.insert r = .ok t') :
    t'.rows = t.rows ++ [r] ∧ S.check r = true ∧
      ∀ a ∈ t.rows, S.clash (S.key a) (S.key r) = false := by
  unfold insert at h
  split at h
  · rename_i hc
    split at h
    · rename_i hu
      cases h
      exact ⟨rfl, hc, hu⟩
    · cases h
  · cases h

theorem insert_error {e : ConstraintError} (h : t.insert r = .error e) :
    (e = .check ∧ S.check r = false) ∨
      (e = .unique ∧ S.check r = true ∧ ∃ a ∈ t.rows, S.clash (S.key a) (S.key r) = true) := by
  unfold insert at h
  split at h
  · rename_i hc
    split at h
    · cases h
    · rename_i hu
      cases h
      refine .inr ⟨rfl, hc, ?_⟩
      simpa using hu
  · rename_i hc
    cases h
    exact .inl ⟨rfl, by simpa using hc⟩

theorem insertOrIgnore_true (h : (t.insertOrIgnore r).1 = true) :
    t.insert r = .ok (t.insertOrIgnore r).2 := by
  unfold insertOrIgnore at h ⊢
  cases hi : t.insert r with
  | error e => simp [hi] at h
  | ok t' => rfl

theorem insertOrIgnore_false (h : (t.insertOrIgnore r).1 = false) : (t.insertOrIgnore r).2 = t ∧
      (S.check r = false ∨ ∃ a ∈ t.rows, S.clash (S.key a) (S.key r) = true) := by
  unfold insertOrIgnore at h ⊢
  cases hi : t.insert r with
  | ok t' => simp [hi] at h
  | error e =>
    refine ⟨rfl, ?_⟩
    rcases insert_error hi with ⟨_, hc⟩ | ⟨_, _, ha⟩
    · exact .inl hc
    · exact .inr ha

theorem update_ok {t' : Table S} {n : Nat} (h : t.update p f = .ok (n, t')) :
    t'.rows = t.rows.map (rewrite p f) ∧ n = t.rows.countP p := by
  unfold update at h
  split at h
  · split at h
    · cases h
      exact ⟨rfl, rfl⟩
    · cases h
  · cases h

theorem update_error {e : ConstraintError} (hkey : ∀ r, S.key (f r) = S.key r)
    (h : t.update p f = .error e) :
    e = .check ∧ ∃ r ∈ t.rows, p r = true ∧ S.check (f r) = false := by
  have hk : ∀ r, S.key (rewrite p f r) = S.key r := by
    intro r
    unfold rewrite
    split
    · exact hkey r
    · rfl
  unfold update at h
  split at h
  · split at h
    · cases h
    · rename_i hd
      refine absurd ?_ hd
      rw [pairwise_map]
      refine t.distinct.imp ?_
      intro a b hab
      rw [hk, hk]
      exact hab
  · rename_i hc
    cases h
    refine ⟨rfl, ?_⟩
    simp only [mem_map, forall_exists_index, and_imp, forall_apply_eq_imp_iff₂] at hc
    push Not at hc
    obtain ⟨r, hr, hbad⟩ := hc
    unfold rewrite at hbad
    split at hbad
    · rename_i hp
      exact ⟨r, hr, hp, by simpa using hbad⟩
    · exact absurd (t.checked r hr) hbad

theorem map_rewrite_of_none {rows : List Row} (h : ∀ r ∈ rows, p r = false) :
    rows.map (rewrite p f) = rows := by
  calc rows.map (rewrite p f) = rows.map id := by
        refine map_congr_left ?_
        intro r hr
        simp [rewrite, h r hr]
    _ = rows := map_id rows

theorem mem_rewrite {x : Row} : x ∈ t.rows.map (rewrite p f) ↔
      (x ∈ t.rows ∧ p x = false) ∨ ∃ r ∈ t.rows, p r = true ∧ x = f r := by
  simp only [mem_map, rewrite]
  constructor
  · rintro ⟨r, hr, rfl⟩
    cases hp : p r with
    | false => exact .inl ⟨by simpa using hr, by simpa using hp⟩
    | true => exact .inr ⟨r, hr, hp, by simp⟩
  · rintro (⟨hx, hp⟩ | ⟨r, hr, hp, rfl⟩)
    · exact ⟨x, hx, by simp [hp]⟩
    · exact ⟨r, hr, by simp [hp]⟩

theorem eq_of_clash {a b : Row} (ha : a ∈ t.rows) (hb : b ∈ t.rows)
    (hsymm : ∀ x y, S.clash x y = S.clash y x) (h : S.clash (S.key a) (S.key b) = true) :
    a = b := by
  by_contra hne
  have : Std.Symm fun a b : Row => S.clash (S.key a) (S.key b) = false :=
    ⟨fun x y hxy => by rw [hsymm]; exact hxy⟩
  have hno := t.distinct.forall ha hb hne
  rw [h] at hno
  exact absurd hno (by decide)

end Table

end SpxSpark.Lib
