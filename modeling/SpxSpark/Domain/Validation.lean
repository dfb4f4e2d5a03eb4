import Mathlib.Algebra.GroupWithZero.Nat
import Mathlib.Data.List.Dedup

/-!
# Validation — tokens, time stamps and the checks every contract is built from

A `Token` carries the three facts its constructor checks, so a token in hand needs no second look.
-/

namespace SpxSpark.Domain

open List

/-- Nanoseconds since the Unix epoch. -/
abbrev DateTime := Int

/-- A signed duration in nanoseconds. -/
abbrev TimeDelta := Int

def TimeDelta.seconds (s : Int) : TimeDelta := s * 1000000000

/-- First instant `DateTime<Utc>` can represent. -/
def minUtc : DateTime := -8334601228800 * 1000000000

/-- Last instant `DateTime<Utc>` can represent. -/
def maxUtc : DateTime := 8210266876799 * 1000000000 + 999999999

def checkedAddSigned (t : DateTime) (d : TimeDelta) : Option DateTime :=
  if minUtc ≤ t + d ∧ t + d ≤ maxUtc then some (t + d) else none

theorem checkedAddSigned_eq {t u : DateTime} {d : TimeDelta} (h : checkedAddSigned t d = some u) :
    u = t + d := by
  unfold checkedAddSigned at h
  split at h
  · exact (Option.some.inj h).symm
  · cases h

inductive DomainError
  | empty (field : String)
  | notPositive (field : String)
  | negative (field : String)
  | notProbability (field : String)
  | schemaMismatch (kind expected actual : String)
  | invalid (field reason : String)
  | timeOrder (what : String)
  | providerMismatch
  | duplicate (what : String)
  deriving DecidableEq

/-- Unicode `White_Space`, the set `str::trim` removes. -/
def isWhitespace (c : Char) : Bool :=
  let n := c.toNat
  (9 ≤ n && n ≤ 13) || n == 0x20 || n == 0x85 || n == 0xA0 || n == 0x1680 ||
    (0x2000 ≤ n && n ≤ 0x200A) || n == 0x2028 || n == 0x2029 || n == 0x202F || n == 0x205F ||
    n == 0x3000

/-- The characters `str::trim` leaves. -/
def trim (s : String) : List Char :=
  ((s.toList.dropWhile isWhitespace).reverse.dropWhile isWhitespace).reverse

/-- `value.trim().is_empty()`. -/
def isBlank (s : String) : Bool := s.toList.all isWhitespace

def containsNul (s : String) : Bool := s.toList.any (· == Char.ofNat 0)

/-- Fails with `e` unless `p` holds. -/
def require {ε : Type} (p : Prop) [Decidable p] (e : ε) : Except ε Unit :=
  if p then .ok () else .error e

variable {ε α : Type} {p : Prop} {e : ε} {a : α}

variable {k : Unit → Except ε α}

@[simp]
theorem require_bind_ok [Decidable p] : (require p e >>= k) = .ok a ↔ p ∧ k () = .ok a := by
  by_cases h : p <;> simp [require, h, bind, Except.bind]

@[simp]
theorem require_ok [Decidable p] {u : Unit} : require p e = .ok u ↔ p := by
  by_cases h : p <;> simp [require, h]

@[simp]
theorem require_bind_error [Decidable p] {e' : ε} :
    (require p e >>= k) = .error e' ↔ (¬ p ∧ e = e') ∨ (p ∧ k () = .error e') := by
  by_cases h : p <;> simp [require, h, bind, Except.bind]

@[simp]
theorem require_error [Decidable p] {e' : ε} : require p e = .error e' ↔ ¬ p ∧ e = e' := by
  by_cases h : p <;> simp [require, h]

variable {x : Except ε α}

theorem ok_bind {β : Type} {k : α → Except ε β} (h : x = .ok a) : (x >>= k) = k a := by
  rw [h]
  rfl

theorem bind_ok {β : Type} {k : α → Except ε β} {b : β} :
    (x >>= k) = .ok b ↔ ∃ a, x = .ok a ∧ k a = .ok b := by
  cases x with
  | error e => simp [bind, Except.bind]
  | ok a => simp [bind, Except.bind]

theorem mapError_ok {ε' : Type} {f : ε → ε'} : x.mapError f = .ok a ↔ x = .ok a := by
  cases x with
  | error e => simp [Except.mapError]
  | ok b => simp [Except.mapError]

theorem check_bind_ok {x : Except ε Unit} : (x >>= k) = .ok a ↔ x = .ok () ∧ k () = .ok a := by
  rw [bind_ok]
  constructor
  · rintro ⟨⟨⟩, hx, hk⟩
    exact ⟨hx, hk⟩
  · rintro ⟨hx, hk⟩
    exact ⟨(), hx, hk⟩

theorem forM_ok {f : α → Except ε Unit} {u : Unit} :
    ∀ {xs : List α}, xs.forM f = .ok u ↔ ∀ x ∈ xs, f x = .ok u
  | [] => by simp [forM_eq_forM, pure, Except.pure]
  | x :: xs => by
      rw [forM_eq_forM, forM_cons, bind_ok]
      have ih : xs.forM f = .ok u ↔ ∀ x ∈ xs, f x = .ok u := forM_ok
      rw [forM_eq_forM] at ih
      constructor
      · rintro ⟨⟨⟩, hx, hxs⟩
        intro y hy
        rcases mem_cons.mp hy with rfl | hy
        · exact hx
        · exact ih.mp hxs y hy
      · intro h
        exact ⟨u, h x (mem_cons_self ..),
          ih.mpr fun y hy => h y (mem_cons_of_mem _ hy)⟩

/-! ## Tokens -/

/-- A non-blank, NUL-free string of at most 4096 UTF-8 bytes. -/
structure Token where
  value : String
  nonBlank : isBlank value = false
  nulFree : containsNul value = false
  bounded : value.utf8ByteSize ≤ 4096
  deriving DecidableEq

namespace Token

/-- `Token::new`. -/
def new (value field : String) : Except DomainError Token :=
  if h : isBlank value = false then
    if h' : containsNul value = false then
      if h'' : value.utf8ByteSize ≤ 4096 then .ok ⟨value, h, h', h''⟩
      else .error (.invalid field "must not exceed 4096 UTF-8 bytes")
    else .error (.invalid field "NUL is forbidden")
  else .error (.empty field)

@[ext]
theorem ext {a b : Token} (h : a.value = b.value) : a = b := by
  cases a
  cases b
  cases h
  rfl

theorem new_value {v field : String} {t : Token} (h : new v field = .ok t) : t.value = v := by
  unfold new at h
  repeat' split at h
  all_goals first | (cases h; rfl) | cases h

theorem new_ok {v : String} (field : String) (hblank : isBlank v = false)
    (hnul : containsNul v = false) (hlen : v.length ≤ 1024) :
    ∃ t, new v field = .ok t ∧ t.value = v := by
  have hsize : ∀ cs : List Char, (String.ofList cs).utf8ByteSize ≤ 4 * cs.length := by
    intro cs
    induction cs with
    | nil => exact Nat.le_refl _
    | cons c cs ih =>
      have hsplit : (String.ofList (c :: cs)).utf8ByteSize =
          (String.singleton c).utf8ByteSize + (String.ofList cs).utf8ByteSize := by
        rw [← String.utf8ByteSize_append, String.singleton_eq_ofList, ← String.ofList_append]
        rfl
      have hc := c.utf8Size_le_four
      rw [hsplit, String.utf8ByteSize_singleton, length_cons]
      omega
  have hbound : v.utf8ByteSize ≤ 4096 := by
    have h := hsize v.toList
    rw [String.ofList_toList, String.length_toList] at h
    omega
  exact ⟨⟨v, hblank, hnul, hbound⟩, by simp [new, hblank, hnul, hbound], rfl⟩

end Token

/-! ## Checks shared by the contracts -/

/-- `unique_tokens`: sorting and dropping repeats loses nothing. -/
def uniqueTokens (values : List Token) (field : String) : Except DomainError Unit :=
  require (values.dedup.length = values.length) (.duplicate field)

theorem dedup_length [DecidableEq α] {xs : List α} : xs.dedup.length = xs.length ↔ xs.Nodup := by
  rw [← dedup_eq_self]
  constructor
  · exact fun h => (dedup_sublist xs).eq_of_length h
  · intro h
    rw [h]

theorem uniqueTokens_ok {values : List Token} {field : String} {u : Unit} :
    uniqueTokens values field = .ok u ↔ values.Nodup := by
  rw [uniqueTokens, require_ok, dedup_length]

/-- `require_schema`. -/
def requireSchema (actual expected kind : String) : Except DomainError Unit :=
  require (actual = expected) (.schemaMismatch kind expected actual)

/-! ## Digests -/

/-- A lowercase hexadecimal digit. -/
def isHexDigit (c : Char) : Bool := ('0' ≤ c && c ≤ '9') || ('a' ≤ c && c ≤ 'f')

/-- The text of a SHA-256 digest. -/
structure Sha256Hex where
  value : String
  length : value.length = 64
  digits : value.toList.all isHexDigit = true

namespace Sha256Hex

/-- The digest text whose digits, least significant first, spell a number. -/
def ofNat (n : Nat) : Sha256Hex where
  value := String.ofList ((List.range 64).map fun i => Nat.digitChar (n / 16 ^ i % 16))
  length := by rw [String.length_ofList, length_map, length_range]
  digits := by
    have hdigit : ∀ d < 16, isHexDigit (Nat.digitChar d) = true := by decide
    rw [String.toList_ofList, all_map, all_eq_true]
    intro i _
    exact hdigit _ (Nat.mod_lt _ (by decide))

/-- `&hash[..24]`. -/
def short (h : Sha256Hex) : String := String.ofList (h.value.toList.take 24)

theorem short_not_nul (h : Sha256Hex) : containsNul h.short = false := by
  refine any_eq_false.mpr fun c hc => ?_
  rw [short, String.toList_ofList] at hc
  have hdigit := all_eq_true.mp h.digits c (mem_of_mem_take hc)
  intro hnul
  rw [beq_iff_eq] at hnul
  rw [hnul] at hdigit
  exact absurd hdigit (by decide)

theorem token_ok (h : Sha256Hex) (label field : String) (hblank : isBlank label = false)
    (hnul : containsNul label = false) (hlen : label.length ≤ 1000) :
    ∃ t, Token.new (label ++ h.short) field = .ok t ∧ t.value = label ++ h.short := by
  refine Token.new_ok field ?_ ?_ ?_
  · rw [isBlank, String.toList_append, all_append]
    rw [isBlank] at hblank
    rw [hblank, Bool.false_and]
  · have hshort := h.short_not_nul
    rw [containsNul] at hnul hshort ⊢
    rw [String.toList_append, any_append, hnul, hshort, Bool.or_false]
  · have : h.short.length ≤ 24 := by
      rw [short, String.length_ofList, length_take]
      omega
    rw [String.length_append]
    omega

end Sha256Hex

end SpxSpark.Domain
