import Mathlib.Data.List.DropRight
import Mathlib.Data.List.Infix

/-!
# Text — taking a text apart

The operations on texts that parsers are made of, each with what its result says about the text.
-/

namespace SpxSpark

open List

/-- A text, as the list of its characters. -/
abbrev Text := List Char

namespace Lib

instance lawfulBEqChars : LawfulBEq (List Char) := inferInstance

/-- What `str.strip` removes. -/
def isSpace (c : Char) : Bool :=
  (9 ≤ c.toNat && c.toNat ≤ 13) || (28 ≤ c.toNat && c.toNat ≤ 32) || c.toNat == 0x85
    || c.toNat == 0xa0 || c.toNat == 0x1680 || (0x2000 ≤ c.toNat && c.toNat ≤ 0x200a)
    || c.toNat == 0x2028 || c.toNat == 0x2029 || c.toNat == 0x202f || c.toNat == 0x205f
    || c.toNat == 0x3000

/-- `str.strip` on the characters of a text. -/
def stripChars (text : List Char) : List Char := (text.dropWhile isSpace).rdropWhile isSpace

/-- `str.strip`. -/
def strip (text : String) : String := String.ofList (stripChars text.toList)

/-- The zeros of the decimal digits that `\d` takes (Unicode 15). The other nine follow each. -/
def decimalZeros : List Nat :=
  [0x30, 0x660, 0x6f0, 0x7c0, 0x966, 0x9e6, 0xa66, 0xae6, 0xb66, 0xbe6, 0xc66, 0xce6, 0xd66,
    0xde6, 0xe50, 0xed0, 0xf20, 0x1040, 0x1090, 0x17e0, 0x1810, 0x1946, 0x19d0, 0x1a80, 0x1a90,
    0x1b50, 0x1bb0, 0x1c40, 0x1c50, 0xa620, 0xa8d0, 0xa900, 0xa9d0, 0xa9f0, 0xaa50, 0xabf0,
    0xff10, 0x104a0, 0x10d30, 0x11066, 0x110f0, 0x11136, 0x111d0, 0x112f0, 0x11450, 0x114d0,
    0x11650, 0x116c0, 0x11730, 0x118e0, 0x11950, 0x11c50, 0x11d50, 0x11da0, 0x11f50, 0x16a60,
    0x16ac0, 0x16b50, 0x1d7ce, 0x1d7d8, 0x1d7e2, 0x1d7ec, 0x1d7f6, 0x1e140, 0x1e2f0, 0x1e4f0,
    0x1e950, 0x1fbf0]

/-- The value of a decimal digit. -/
def decimalDigit (c : Char) : Option Nat :=
  (decimalZeros.find? fun first => first ≤ c.toNat && c.toNat < first + 10).map (c.toNat - ·)

/-- The number that `\d+` matches, as `float` reads it. -/
def decimalNumber (text : List Char) : Option Nat :=
  if text = [] then none
  else (text.mapM decimalDigit).map (·.foldl (fun n digit => 10 * n + digit) 0)

variable {α : Type} [DecidableEq α]

/-- The text occurs somewhere. -/
def containsText (part text : List α) : Bool := decide (part <:+: text)

def stripPrefix (start text : List α) : Option (List α) :=
  if start.isPrefixOf text then some (text.drop start.length) else none

def stripSuffix (ending text : List α) : Option (List α) :=
  if ending.isSuffixOf text then some (text.take (text.length - ending.length)) else none

/-- The text before and after the first separator. -/
def splitOnce (separator : List α) : List α → Option (List α × List α)
  | [] => if separator.isPrefixOf [] then some ([], []) else none
  | c :: rest =>
    if separator.isPrefixOf (c :: rest) then some ([], (c :: rest).drop separator.length)
    else (splitOnce separator rest).map fun parts => (c :: parts.1, parts.2)

theorem stripSuffix_eq_some {ending text rest : List α} :
    stripSuffix ending text = some rest ↔ text = rest ++ ending := by
  unfold stripSuffix
  constructor
  · intro h
    split at h
    · rename_i hsuffix
      obtain ⟨front, rfl⟩ := isSuffixOf_iff_suffix.mp hsuffix
      cases h
      simp
    · cases h
  · rintro rfl
    rw [if_pos (isSuffixOf_iff_suffix.mpr ⟨rest, rfl⟩)]
    simp

theorem splitOnce_eq_some {separator text before after : List α}
    (h : splitOnce separator text = some (before, after)) :
    text = before ++ separator ++ after := by
  induction text generalizing before with
  | nil =>
    unfold splitOnce at h
    split at h
    · rename_i hstart
      cases h
      rw [List.isPrefixOf_iff_prefix, prefix_nil] at hstart
      simp [hstart]
    · cases h
  | cons c rest ih =>
    unfold splitOnce at h
    split at h
    · rename_i hstart
      cases h
      obtain ⟨tail, htail⟩ := List.isPrefixOf_iff_prefix.mp hstart
      rw [← htail]
      simp
    · obtain ⟨⟨before', after'⟩, hsplit, hparts⟩ := Option.map_eq_some_iff.mp h
      cases hparts
      rw [ih hsplit]
      rfl

theorem splitOnce_single {separator : α} {before : List α} (hbefore : separator ∉ before)
    (after : List α) : splitOnce [separator] (before ++ separator :: after) =
    some (before, after) := by
  induction before with
  | nil => simp [splitOnce]
  | cons c rest ih =>
    rw [mem_cons, not_or] at hbefore
    rw [cons_append, splitOnce, ih hbefore.2]
    simp [hbefore.1]

theorem separator_inj {separator : α} {before before' after after' : List α}
    (hbefore : separator ∉ before) (hbefore' : separator ∉ before')
    (h : before ++ separator :: after = before' ++ separator :: after') :
    before = before' ∧ after = after' := by
  have hsplit := splitOnce_single hbefore after
  rw [h, splitOnce_single hbefore'] at hsplit
  obtain ⟨hfront, hback⟩ := Prod.mk.inj (Option.some.inj hsplit)
  exact ⟨hfront.symm, hback.symm⟩

/-! ## Decimal digits -/

theorem toDigits_injective {n m : Nat} (h : Nat.toDigits 10 n = Nat.toDigits 10 m) : n = m := by
  rw [← Nat.ofDigitChars_ten_toDigits (n := n), h, Nat.ofDigitChars_ten_toDigits]

theorem not_mem_toDigits {c : Char} {n : Nat} (h : c.isDigit = false) : c ∉ Nat.toDigits 10 n := by
  intro hmem
  rw [Nat.isDigit_of_mem_toDigits (b := 10) (by omega) (by omega) hmem] at h
  cases h

theorem stripPrefix_eq_some {start text rest : List Char} :
    stripPrefix start text = some rest ↔ text = start ++ rest := by
  unfold stripPrefix
  constructor
  · intro h
    split at h
    · rename_i hprefix
      obtain ⟨tail, rfl⟩ := List.isPrefixOf_iff_prefix.mp hprefix
      cases h
      simp
    · cases h
  · rintro rfl
    rw [if_pos (List.isPrefixOf_iff_prefix.mpr (prefix_append _ _))]
    simp

theorem stripPrefix_append {start text rest : List Char} (h : stripPrefix start text = some rest)
    (more : List Char) : stripPrefix start (text ++ more) = some (rest ++ more) := by
  rw [stripPrefix_eq_some] at h ⊢
  rw [h, append_assoc]

/-! ## Stripping -/

theorem stripChars_idempotent (text : List Char) :
    stripChars (stripChars text) = stripChars text := by
  have hfirst : (stripChars text).dropWhile isSpace = stripChars text := by
    have hprefix : stripChars text <+: text.dropWhile isSpace := rdropWhile_prefix _ _
    cases hstripped : stripChars text with
    | nil => rfl
    | cons c rest =>
      rw [hstripped] at hprefix
      obtain ⟨tail, htail⟩ := hprefix
      have hc : isSpace c = false := by
        have hhead := head?_dropWhile_not isSpace text
        rw [← htail] at hhead
        simpa using hhead
      rw [dropWhile_cons, hc, if_neg Bool.false_ne_true]
  unfold stripChars at hfirst ⊢
  rw [hfirst, rdropWhile_idempotent]

theorem stripChars_eq_self {text : List Char} (h : ∀ c ∈ text, isSpace c = false) :
    stripChars text = text := by
  have hdrop : ∀ l : List Char, (∀ c ∈ l, isSpace c = false) → l.dropWhile isSpace = l := by
    intro l hl
    cases l with
    | nil => rfl
    | cons c rest => rw [dropWhile_cons, hl c mem_cons_self, if_neg Bool.false_ne_true]
  unfold stripChars
  rw [hdrop text h, List.rdropWhile, hdrop _ fun c hc => h c (mem_reverse.mp hc),
    reverse_reverse]

end Lib

end SpxSpark
