import Mathlib.Data.List.MinMax
import Mathlib.Data.List.Sort
import Mathlib.Algebra.Order.Ring.Rat

/-!
# Arrays — what array code says of one position

The array operations a vectorised loop is written with, on lists: running folds, first hits of a
mask, and the choice between several first hits.
-/

namespace SpxSpark.Arrays

open List

variable {α β R : Type}

/-! ## Running folds -/

def accumulateFrom (f : α → α → α) : α → List α → List α
  | _, [] => []
  | acc, x :: xs => f acc x :: accumulateFrom f (f acc x) xs

/-- `ufunc.accumulate`: the fold of every prefix. -/
def accumulate (f : α → α → α) : List α → List α
  | [] => []
  | x :: xs => x :: accumulateFrom f x xs

/-- `diff(concatenate(([first], xs)))`. -/
def differences [Sub α] (first : α) (xs : List α) : List α :=
  List.zipWith (fun before x => x - before) (first :: xs) xs

/-- `searchsorted(xs, x, side="left")` on a sorted array: the first place not below `x`. -/
def searchsortedLeft [LE α] [DecidableLE α] (xs : List α) (x : α) : ℕ := xs.findIdx (x ≤ ·)

/-- The first place a mask holds at, or its length. -/
def firstHit (mask : List Bool) : ℕ := mask.findIdx id

@[simp] theorem length_accumulateFrom (f : α → α → α) (acc : α) (xs : List α) :
    (accumulateFrom f acc xs).length = xs.length := by
  induction xs generalizing acc with
  | nil => rfl
  | cons x xs ih => simp [accumulateFrom, ih]

@[simp] theorem length_accumulate (f : α → α → α) (xs : List α) :
    (accumulate f xs).length = xs.length := by
  cases xs <;> simp [accumulate]

variable {f : α → α → α} {pre post : List α} {x : α}

theorem accumulateFrom_split (acc : α) :
    (accumulateFrom f acc (pre ++ x :: post))[pre.length]? = some (f (pre.foldl f acc) x) := by
  induction pre generalizing acc with
  | nil => rfl
  | cons a pre ih => simpa [accumulateFrom] using ih (f acc a)

variable (first : α)

/-- The running fold at a position, started from a value the operation keeps. -/
theorem accumulate_split [Std.Associative f] (pre : List α) (x : α) (post : List α) :
    ((accumulate f (pre ++ x :: post))[pre.length]?).map (f first) =
      some ((pre ++ [x]).foldl f first) := by
  cases pre with
  | nil => rfl
  | cons a pre =>
    have hassoc : ∀ a b c : α, f (f a b) c = f a (f b c) := Std.Associative.assoc
    have hfold : ∀ (ys : List α) (b : α), f first (ys.foldl f b) = ys.foldl f (f first b) := by
      intro ys
      induction ys with
      | nil => exact fun _ => rfl
      | cons y ys ih =>
        intro b
        rw [foldl_cons, ih, ← hassoc]
        rfl
    have hat : (accumulateFrom f a (pre ++ x :: post))[pre.length]? = some (f (pre.foldl f a) x) :=
      accumulateFrom_split a
    simp only [cons_append, accumulate, length_cons, getElem?_cons_succ, hat,
      Option.map_some, foldl_cons, foldl_append, foldl_nil]
    rw [← hassoc, hfold]

theorem accumulate_getD [Std.Associative f] (pre : List α) (x : α) (post : List α) (default : α) :
    f first ((accumulate f (pre ++ x :: post)).getD pre.length default) =
      (pre ++ [x]).foldl f first := by
  have hsplit := accumulate_split (f := f) first pre x post
  obtain ⟨y, hy, hfold⟩ := Option.map_eq_some_iff.mp hsplit
  rw [getD_eq_getElem?_getD, hy, Option.getD_some, hfold]

theorem differences_append [Sub α] (xs : List α) (y : α) (ys : List α) :
    differences first (xs ++ y :: ys) =
      differences first xs ++ (y - xs.getLast?.getD first) :: differences y ys := by
  induction xs generalizing first with
  | nil => rfl
  | cons a xs ih =>
    have hcons : ∀ zs : List α, differences first (a :: zs) = (a - first) :: differences a zs :=
      fun _ => rfl
    rw [cons_append, hcons, ih a, hcons, cons_append]
    cases xs with
    | nil => rfl
    | cons b xs =>
      rw [getLast?_cons_cons]
      simp [getLast?_cons]

@[simp] theorem length_differences [Sub α] (xs : List α) :
    (differences first xs).length = xs.length := by
  simp [differences]

variable {xs : List α}

theorem mem_accumulateFrom_max [LinearOrder α] {acc least : α} (hacc : least ≤ acc) :
    ∀ y ∈ accumulateFrom max acc xs, least ≤ y := by
  induction xs generalizing acc with
  | nil => exact fun _ h => nomatch h
  | cons x xs ih =>
    intro y hy
    have hmax : least ≤ max acc x := hacc.trans (le_max_left _ _)
    rcases mem_cons.mp hy with rfl | hy
    · exact hmax
    · exact ih hmax y hy

theorem le_of_mem_accumulate_max [LinearOrder α] {least : α} (h : ∀ x ∈ xs, least ≤ x) :
    ∀ y ∈ accumulate max xs, least ≤ y := by
  cases xs with
  | nil => exact fun _ h => nomatch h
  | cons x xs =>
    intro y hy
    rcases mem_cons.mp hy with rfl | hy
    · exact h _ mem_cons_self
    · exact mem_accumulateFrom_max (h x mem_cons_self) y hy

theorem differences_nonneg {first : ℚ} {xs : List ℚ} (h : (first :: xs).Pairwise (· ≤ ·)) :
    ∀ d ∈ differences first xs, 0 ≤ d := by
  induction xs generalizing first with
  | nil => exact fun _ h => nomatch h
  | cons x xs ih =>
    obtain ⟨hfirst, hrest⟩ := pairwise_cons.mp h
    intro d hd
    rcases mem_cons.mp hd with rfl | hd
    · exact sub_nonneg_of_le (hfirst x mem_cons_self)
    · exact ih hrest d hd

/-! ## First hits -/

theorem firstHit_le (mask : List Bool) : firstHit mask ≤ mask.length := findIdx_le_length

variable {mask : List Bool} {i : ℕ}

theorem not_hit_of_lt (h : i < firstHit mask) : mask[i]? ≠ some true := by
  intro hhit
  obtain ⟨hi, hval⟩ := List.getElem?_eq_some_iff.mp hhit
  have hnot := List.not_of_lt_findIdx h
  rw [hval] at hnot
  cases hnot

theorem hit_firstHit (h : firstHit mask < mask.length) : mask[firstHit mask]? = some true := by
  rw [getElem?_eq_getElem h]
  exact congrArg some (findIdx_getElem (w := h))

theorem firstHit_le_of_hit (h : mask[i]? = some true) : firstHit mask ≤ i := by
  by_contra hlt
  exact not_hit_of_lt (Nat.lt_of_not_le hlt) h

variable (p : α → Bool)

theorem firstHit_lt_length_iff :
    firstHit ((pre ++ post).map p) < pre.length ↔ pre.any p = true := by
  constructor
  · intro h
    have hlen : firstHit ((pre ++ post).map p) < ((pre ++ post).map p).length := by
      simp only [length_map, length_append]
      omega
    have hhit := hit_firstHit hlen
    rw [getElem?_map, getElem?_append_left h, getElem?_eq_getElem h] at hhit
    exact any_eq_true.mpr ⟨_, getElem_mem h, Option.some.inj hhit⟩
  · intro h
    obtain ⟨x, hx, hp⟩ := any_eq_true.mp h
    obtain ⟨i, hi, rfl⟩ := getElem_of_mem hx
    refine lt_of_le_of_lt (firstHit_le_of_hit ?_) hi
    rw [getElem?_map, getElem?_append_left hi, getElem?_eq_getElem hi]
    exact congrArg some hp

theorem find?_eq_getElem?_firstHit (xs : List α) : xs.find? p = xs[firstHit (xs.map p)]? := by
  induction xs with
  | nil => rfl
  | cons x xs ih =>
    by_cases hp : p x = true
    · simp [firstHit, findIdx_cons, hp]
    · have hnot : p x = false := by simpa using hp
      rw [find?_cons_of_neg hp, ih]
      simp [firstHit, findIdx_cons, hnot]

/-! ## The first of several first hits -/

/-- A candidate is taken when it comes before what was taken so far. -/
def takeFirst (taken : ℕ × R) (candidate : ℕ) (reason : R) : ℕ × R :=
  if candidate < taken.1 then (candidate, reason) else taken

variable {n : ℕ}

theorem takeFirst_le {taken : ℕ × R} (h : taken.1 ≤ n) (candidate : ℕ) (reason : R) :
    (takeFirst taken candidate reason).1 ≤ n := by
  unfold takeFirst
  split_ifs with hlt
  · exact (le_of_lt hlt).trans h
  · exact h

theorem takeFirst_of_le {taken : ℕ × R} {candidate : ℕ} (h : taken.1 ≤ candidate) (reason : R) :
    takeFirst taken candidate reason = taken := if_neg (by omega)

theorem takeFirst_pair {j : ℕ} (hi : i ≤ n) (hj : j ≤ n) (none' first second : R) :
    takeFirst (takeFirst (n, none') i first) j second =
      (min i j, if min i j = n then none' else if i ≤ j then first else second) := by
  unfold takeFirst
  by_cases hin : i < n
  · simp only [if_pos hin]
    by_cases hji : j < i
    · rw [if_pos hji, min_eq_right (by omega), if_neg (by omega), if_neg (by omega)]
    · rw [if_neg hji, min_eq_left (by omega), if_neg (by omega), if_pos (by omega)]
  · obtain rfl : i = n := by omega
    simp only [if_neg hin]
    by_cases hji : j < i
    · rw [if_pos hji, min_eq_right (by omega), if_neg (by omega), if_neg (by omega)]
    · obtain rfl : j = i := by omega
      rw [if_neg hji, min_self, if_pos rfl]

def takeWhen {Level : Type} (taken : ℕ × R) (level : Option Level) (candidate : Level → ℕ)
    (reason : R) : ℕ × R :=
  match level with
  | some l => takeFirst taken (candidate l) reason
  | none => taken

theorem takeWhen_mask {Level : Type} {taken : ℕ × R} (h : taken.1 ≤ xs.length)
    (level : Option Level) (p : Level → α → Bool) (reason : R) :
    takeWhen taken level (fun l => firstHit (xs.map (p l))) reason =
      takeFirst taken (firstHit (xs.map fun x => level.any (p · x))) reason := by
  cases level with
  | some l => rfl
  | none =>
    have hoff : firstHit (xs.map fun x => (none : Option Level).any (p · x)) = xs.length := by
      have hall : firstHit (xs.map fun x => (none : Option Level).any (p · x)) =
          (xs.map fun x => (none : Option Level).any (p · x)).length :=
        findIdx_eq_length.mpr (by simp)
      rw [hall, length_map]
    rw [hoff, takeFirst_of_le h]
    rfl

/-- The first position a column hits and the reason of the first column that hits there. -/
def firstExit (taken : ℕ × R) (columns : List (List Bool × R)) : ℕ × R :=
  columns.foldl (fun taken column => takeFirst taken (firstHit column.1) column.2) taken

/-- The reason of the first column that hits at a position. -/
def reasonAt (columns : List (List Bool × R)) (i : ℕ) : Option R :=
  (columns.find? fun column => column.1[i]? = some true).map (·.2)

variable {columns : List (List Bool × R)}

theorem reasonAt_cons {reason : R} {hit : Bool} (h : mask[i]? = some hit) :
    reasonAt ((mask, reason) :: columns) i = if hit then some reason else reasonAt columns i := by
  cases hit <;> simp [reasonAt, h]

theorem reasonAt_append (xs ys : List (List Bool × R)) (i : ℕ) :
    reasonAt (xs ++ ys) i = (reasonAt xs i).or (reasonAt ys i) := by
  rw [reasonAt, find?_append, Option.map_or, reasonAt, reasonAt]

theorem lt_of_reasonAt {reason : R} (hlen : ∀ column ∈ columns, column.1.length = n)
    (h : reasonAt columns i = some reason) : i < n := by
  obtain ⟨column, hfound, -⟩ := Option.map_eq_some_iff.mp h
  have hhit : column.1[i]? = some true := by simpa using find?_some hfound
  rw [← hlen column (mem_of_find?_eq_some hfound)]
  exact (List.getElem?_eq_some_iff.mp hhit).1

/-- What is chosen: no column hits before it, and it is where nothing was chosen or the first
column to hit there gives its reason. -/
theorem firstExit_spec (none' : R) (hlen : ∀ column ∈ columns, column.1.length = n) :
    (∀ i < (firstExit (n, none') columns).1, reasonAt columns i = none) ∧
      ((firstExit (n, none') columns = (n, none')) ∨
        reasonAt columns (firstExit (n, none') columns).1 =
          some (firstExit (n, none') columns).2) := by
  induction columns using List.reverseRecOn with
  | nil => exact ⟨fun _ _ => rfl, .inl rfl⟩
  | append_singleton columns column ih =>
    obtain ⟨hbefore, hchosen⟩ := ih fun c hc => hlen c (mem_append_left _ hc)
    have hcolumn : column.1.length = n := hlen column (by simp)
    have hfold : firstExit (n, none') (columns ++ [column]) =
        takeFirst (firstExit (n, none') columns) (firstHit column.1) column.2 := by
      rw [firstExit, foldl_append]
      rfl
    have hsingle : ∀ i, reasonAt [column] i =
        if column.1[i]? = some true then some column.2 else none := by
      intro i
      by_cases h : column.1[i]? = some true <;> simp [reasonAt, h]
    rw [hfold, takeFirst]
    split_ifs with hlt
    · -- The new column hits before everything taken so far.
      constructor
      · intro i hi
        rw [reasonAt_append, hbefore i (hi.trans hlt), hsingle, if_neg (not_hit_of_lt hi)]
        rfl
      · right
        have hin : firstHit column.1 < column.1.length := by
          have hle : (firstExit (n, none') columns).1 ≤ n := by
            rcases hchosen with h | h
            · rw [h]
            · exact le_of_lt
                (lt_of_reasonAt (fun c hc => hlen c (mem_append_left _ hc)) h)
          omega
        rw [reasonAt_append, hbefore _ hlt, hsingle, if_pos (hit_firstHit hin)]
        rfl
    · constructor
      · intro i hi
        rw [reasonAt_append, hbefore i hi, hsingle, if_neg]
        · rfl
        · exact fun hhit => absurd (firstHit_le_of_hit hhit) (by omega)
      · refine hchosen.imp id fun h => ?_
        rw [reasonAt_append, h]
        rfl

/-! ## Stable sorting -/

theorem filter_orderedInsert {r : α → α → Prop} [DecidableRel r] [IsTrans α r] (a : α)
    (hsorted : xs.Pairwise r) : (xs.orderedInsert r a).filter p =
      if p a then (xs.filter p).orderedInsert r a else xs.filter p := by
  induction xs with
  | nil => by_cases ha : p a <;> simp [ha]
  | cons b xs ih =>
    obtain ⟨hb, hrest⟩ := pairwise_cons.mp hsorted
    by_cases hab : r a b
    · rw [orderedInsert_cons, if_pos hab]
      by_cases ha : p a
      · rw [filter_cons_of_pos ha, if_pos ha]
        -- `a` goes before every kept entry, as all of them are at or after `b`.
        have hfirst : ∀ c ∈ (b :: xs).filter p, r a c := by
          intro c hc
          rcases mem_cons.mp (mem_of_mem_filter hc) with rfl | hc
          · exact hab
          · exact IsTrans.trans a b c hab (hb c hc)
        cases hkept : (b :: xs).filter p with
        | nil => rfl
        | cons c cs =>
          rw [orderedInsert_cons, if_pos (hfirst c (hkept ▸ mem_cons_self))]
      · rw [filter_cons_of_neg ha, if_neg ha]
    · rw [orderedInsert_cons, if_neg hab]
      by_cases hpb : p b
      · rw [filter_cons_of_pos hpb, ih hrest, filter_cons_of_pos hpb]
        by_cases ha : p a
        · rw [if_pos ha, if_pos ha, orderedInsert_cons, if_neg hab]
        · rw [if_neg ha, if_neg ha]
      · rw [filter_cons_of_neg hpb, ih hrest, filter_cons_of_neg hpb]

theorem filter_insertionSort {r : α → α → Prop} [DecidableRel r] [IsTrans α r] [Std.Total r]
    (xs : List α) : (xs.insertionSort r).filter p = (xs.filter p).insertionSort r := by
  induction xs with
  | nil => rfl
  | cons a xs ih =>
    rw [insertionSort_cons, filter_orderedInsert p a (pairwise_insertionSort r xs), ih]
    by_cases ha : p a
    · rw [if_pos ha, filter_cons_of_pos ha, insertionSort_cons]
    · rw [if_neg ha, filter_cons_of_neg ha]

/-! ## The least element -/

theorem argmin_map {κ : Type} [LinearOrder κ] {key : β → κ} {key' : α → κ} {g : α → β}
    (hkey : ∀ x, key (g x) = key' x) (l : List α) :
    (l.map g).argmin key = (l.argmin key').map g := by
  induction l using List.reverseRecOn with
  | nil => rfl
  | append_singleton l x ih =>
    rw [map_append, map_singleton, argmin_concat, argmin_concat, ih]
    cases l.argmin key' with
    | none => rfl
    | some m =>
      simp only [Option.map_some, hkey]
      split
      · rfl
      · rfl

theorem argmax_map {κ : Type} [LinearOrder κ] {key : β → κ} {key' : α → κ} {g : α → β}
    (hkey : ∀ x, key (g x) = key' x) (l : List α) : (l.map g).argmax key = (l.argmax key').map g :=
  @argmin_map α β κᵒᵈ _ key key' g hkey l

theorem argmax_perm {κ : Type} [LinearOrder κ] {key : α → κ} {l l' : List α} (hperm : l.Perm l')
    (hinj : ∀ a ∈ l, ∀ b ∈ l, key a = key b → a = b) : l.argmax key = l'.argmax key := by
  cases hmax : l'.argmax key with
  | none =>
    obtain rfl := argmax_eq_none.mp hmax
    rw [hperm.eq_nil]
    rfl
  | some m' =>
    have hmem' : m' ∈ l := hperm.mem_iff.mpr (argmax_mem hmax)
    cases hmax' : l.argmax key with
    | none =>
      rw [argmax_eq_none.mp hmax'] at hmem'
      cases hmem'
    | some m =>
      have hmem : m ∈ l := argmax_mem hmax'
      have hle : key m' ≤ key m := le_of_mem_argmax hmem' hmax'
      have hge : key m ≤ key m' := le_of_mem_argmax (hperm.mem_iff.mp hmem) hmax
      rw [hinj m hmem m' hmem' (le_antisymm hge hle)]

end SpxSpark.Arrays
