import SpxSpark.Lib.Text

/-!
# Json — compact JSON texts

Objects, strings, numbers and literals, printed without blanks and read back. `parse_render` is the
round trip.
-/

namespace SpxSpark.Lib

open List

/-! ## Values -/

def isNumberChar (c : Char) : Bool :=
  c.isDigit || c = '-' || c = '+' || c = '.' || c = 'e' || c = 'E'

def isDigits (text : List Char) : Bool := text ≠ [] && text.all Char.isDigit

/-- The grammar of a JSON number: a sign, an integer part without leading zeros, a fraction and an
exponent. -/
def isNumber (text : List Char) : Bool :=
  let body := (stripPrefix ['-'] text).getD text
  let integer := body.takeWhile Char.isDigit
  let rest := body.dropWhile Char.isDigit
  let fraction := ((stripPrefix ['.'] rest).map (·.takeWhile Char.isDigit)).getD ['0']
  let rest := ((stripPrefix ['.'] rest).map (·.dropWhile Char.isDigit)).getD rest
  let exponent := (stripPrefix ['e'] rest <|> stripPrefix ['E'] rest).map fun digits =>
    (stripPrefix ['+'] digits <|> stripPrefix ['-'] digits).getD digits
  text.all isNumberChar && isDigits integer && (integer.head? ≠ some '0' || integer = ['0']) &&
    isDigits fraction && (exponent.map isDigits).getD (rest = [])

structure JsonNumber where
  text : List Char
  valid : isNumber text = true

inductive Json
  | null
  | bool (value : Bool)
  | number (value : JsonNumber)
  | string (value : List Char)
  | object (members : List (List Char × Json))

/-- The value of a key; of two members with one key the last counts. -/
def Json.field (value : Json) (key : List Char) : Option Json :=
  match value with
  | .object members => (members.reverse.find? (·.1 = key)).map (·.2)
  | .null | .bool _ | .number _ | .string _ => none

def Json.isObject : Json → Bool
  | .object _ => true
  | .null | .bool _ | .number _ | .string _ => false

/-! ## Printing -/

def hexDigit (n : Nat) : Char := Nat.digitChar n

/-- A character inside quotes: quotes, backslashes and control characters are escaped. -/
def escapeChar (c : Char) : List Char :=
  if c = '"' then ['\\', '"']
  else if c = '\\' then ['\\', '\\']
  else if c = '\n' then ['\\', 'n']
  else if c = '\r' then ['\\', 'r']
  else if c = '\t' then ['\\', 't']
  else if c.toNat = 8 then ['\\', 'b']
  else if c.toNat = 12 then ['\\', 'f']
  else if c.toNat < 32 then ['\\', 'u', '0', '0', hexDigit (c.toNat / 16), hexDigit (c.toNat % 16)]
  else [c]

/-- The text of a string. -/
def quote (value : List Char) : List Char := '"' :: (value.flatMap escapeChar ++ ['"'])

mutual

def Json.render : Json → List Char
  | .null => "null".toList
  | .bool true => "true".toList
  | .bool false => "false".toList
  | .number value => value.text
  | .string value => quote value
  | .object members => '{' :: (renderMembers members ++ ['}'])

def renderMembers : List (List Char × Json) → List Char
  | [] => []
  | [(key, value)] => quote key ++ ':' :: value.render
  | (key, value) :: next :: rest =>
    quote key ++ ':' :: (value.render ++ ',' :: renderMembers (next :: rest))

end

/-! ## Reading -/

/-- The character after a backslash. -/
def unescape : Char → Option Char
  | '"' => some '"'
  | '\\' => some '\\'
  | '/' => some '/'
  | 'n' => some '\n'
  | 'r' => some '\r'
  | 't' => some '\t'
  | 'b' => some (Char.ofNat 8)
  | 'f' => some (Char.ofNat 12)
  | _ => none

def hexValue (c : Char) : Option Nat :=
  if c.isDigit then some (c.toNat - 48)
  else if 'a' ≤ c ∧ c ≤ 'f' then some (c.toNat - 87)
  else if 'A' ≤ c ∧ c ≤ 'F' then some (c.toNat - 55)
  else none

/-- Four hexadecimal digits; halves of a pair name no character. -/
def hexChar (a b c d : Char) : Option Char := do
  let a ← hexValue a
  let b ← hexValue b
  let c ← hexValue c
  let d ← hexValue d
  let code := 4096 * a + 256 * b + 16 * c + d
  if code < 0xd800 ∨ 0xdfff < code then some (Char.ofNat code) else none

/-- The rest of a string after its opening quote. -/
def parseString : List Char → Option (List Char × List Char)
  | [] => none
  | '"' :: rest => some ([], rest)
  | '\\' :: 'u' :: a :: b :: c :: d :: rest =>
    (hexChar a b c d).bind fun decoded =>
      (parseString rest).map fun parsed => (decoded :: parsed.1, parsed.2)
  | '\\' :: c :: rest =>
    (unescape c).bind fun decoded =>
      (parseString rest).map fun parsed => (decoded :: parsed.1, parsed.2)
  | c :: rest =>
    if c.toNat < 32 then none
    else (parseString rest).map fun parsed => (c :: parsed.1, parsed.2)

def parseNumber (text : List Char) : Option (Json × List Char) :=
  let run := text.takeWhile isNumberChar
  if h : isNumber run = true then some (.number ⟨run, h⟩, text.dropWhile isNumberChar) else none

mutual

/-- A value and what follows it; the fuel bounds the nesting. -/
def parseValue : Nat → List Char → Option (Json × List Char)
  | 0, _ => none
  | fuel + 1, text =>
    match text with
    | [] => none
    | c :: rest =>
      if c = '{' then
        if rest.head? = some '}' then some (.object [], rest.tail)
        else (parseMembers fuel rest).map fun parsed => (.object parsed.1, parsed.2)
      else if c = '"' then
        (parseString rest).map fun parsed => (.string parsed.1, parsed.2)
      else if c = 'n' then (stripPrefix "ull".toList rest).map fun rest => (.null, rest)
      else if c = 't' then (stripPrefix "rue".toList rest).map fun rest => (.bool true, rest)
      else if c = 'f' then (stripPrefix "alse".toList rest).map fun rest => (.bool false, rest)
      else parseNumber (c :: rest)

/-- Members up to the closing brace. -/
def parseMembers : Nat → List Char → Option (List (List Char × Json) × List Char)
  | 0, _ => none
  | fuel + 1, text =>
    (stripPrefix ['"'] text).bind fun text =>
    (parseString text).bind fun key =>
    (stripPrefix [':'] key.2).bind fun text =>
    (parseValue fuel text).bind fun value =>
      if value.2.head? = some '}' then some ([(key.1, value.1)], value.2.tail)
      else if value.2.head? = some ',' then
        (parseMembers fuel value.2.tail).map fun more => ((key.1, value.1) :: more.1, more.2)
      else none

end

/-- The value of a whole text. -/
def Json.parse (text : List Char) : Option Json :=
  (parseValue text.length text).bind fun parsed => if parsed.2 = [] then some parsed.1 else none

/-! ## Strings and numbers -/

variable {c : Char}

theorem parseString_plain (hq : c ≠ '"') (hb : c ≠ '\\') (rest : List Char) :
    parseString (c :: rest) = if c.toNat < 32 then none
      else (parseString rest).map fun parsed => (c :: parsed.1, parsed.2) := by
  rw [parseString.eq_5]
  · exact hq
  · intro a b c' d rest' hc
    exact absurd hc hb
  · intro c' rest' hc
    exact absurd hc hb

variable {rest : List Char}

theorem parseString_append {text value : List Char} (h : parseString text = some (value, rest))
    (more : List Char) : parseString (text ++ more) = some (value, rest ++ more) := by
  fun_induction parseString text generalizing value rest with
  | case1 => cases h
  | case2 tail =>
    cases h
    rfl
  | case3 a b c d tail ih =>
    obtain ⟨decoded, hdecoded, h⟩ := Option.bind_eq_some_iff.mp h
    obtain ⟨parsed, hparsed, h⟩ := Option.map_eq_some_iff.mp h
    cases h
    simp only [cons_append, parseString]
    rw [hdecoded, Option.bind_some, ih hparsed]
    rfl
  | case4 c tail hu ih =>
    obtain ⟨decoded, hdecoded, h⟩ := Option.bind_eq_some_iff.mp h
    obtain ⟨parsed, hparsed, h⟩ := Option.map_eq_some_iff.mp h
    cases h
    have hc : c ≠ 'u' := by
      rintro rfl
      cases hdecoded
    simp only [cons_append]
    rw [parseString.eq_4]
    · rw [hdecoded, Option.bind_some, ih hparsed]
      rfl
    · intro a b c' d rest hcu
      exact absurd hcu hc
  | case5 c tail hq hu hb hlow => 
      cases h
  | case6 c tail hq hu hb hlow ih => 
      obtain ⟨parsed, hparsed, h⟩ := Option.map_eq_some_iff.mp h
      cases h
      have hslash : c ≠ '\\' := by
        rintro rfl
        cases tail with
        | nil => cases hparsed
        | cons next tail => exact hb next tail rfl rfl
      rw [cons_append, parseString_plain hq hslash, if_neg hlow, ih hparsed]
      rfl

theorem hexChar_hexDigit : ∀ n < 32,
    hexChar '0' '0' (hexDigit (n / 16)) (hexDigit (n % 16)) = some (Char.ofNat n) := by
  decide

theorem parseString_escapeChar (c : Char) (rest : List Char) : parseString (escapeChar c ++ rest) =
      (parseString rest).map fun parsed => (c :: parsed.1, parsed.2) := by
  have heq : ∀ n, c.toNat = n → c = Char.ofNat n := by
    rintro n rfl
    simp
  unfold escapeChar
  split_ifs with hq hb hn hr ht h8 h12 h32
  · subst hq
    rfl
  · subst hb
    rfl
  · subst hn
    rfl
  · subst hr
    rfl
  · subst ht
    rfl
  · rw [heq 8 h8]
    rfl
  · rw [heq 12 h12]
    rfl
  · show ((hexChar '0' '0' (hexDigit (c.toNat / 16)) (hexDigit (c.toNat % 16))).bind _) = _
    rw [hexChar_hexDigit c.toNat h32, Option.bind_some, Char.ofNat_toNat]
    rfl
  · rw [singleton_append, parseString_plain hq hb, if_neg h32]

theorem parseString_quote (value rest : List Char) :
    parseString (value.flatMap escapeChar ++ '"' :: rest) = some (value, rest) := by
  induction value with
  | nil => rfl
  | cons c value ih =>
    rw [flatMap_cons, append_assoc, parseString_escapeChar, ih]
    rfl

/-- What follows a number does not go on with it. -/
def Stops (rest : List Char) : Prop := ∀ c tail, rest = c :: tail → isNumberChar c = false

theorem takeWhile_stops {run : List Char} (hrun : run.all isNumberChar = true)
    (hrest : Stops rest) : (run ++ rest).takeWhile isNumberChar = run ∧
      (run ++ rest).dropWhile isNumberChar = rest := by
  have hall : ∀ c ∈ run, isNumberChar c = true := all_eq_true.mp hrun
  rw [takeWhile_append_of_pos hall, dropWhile_append_of_pos hall]
  cases rest with
  | nil => simp
  | cons c tail =>
    have hc := hrest c tail rfl
    simp [hc]

theorem JsonNumber.chars (value : JsonNumber) : value.text.all isNumberChar = true := by
  have h := value.valid
  unfold isNumber at h
  simp only [Bool.and_eq_true] at h
  exact h.1.1.1.1

theorem parseNumber_render (value : JsonNumber) (hrest : Stops rest) :
    parseNumber (value.text ++ rest) = some (.number value, rest) := by
  obtain ⟨hrun, htail⟩ := takeWhile_stops value.chars hrest
  unfold parseNumber
  simp only [hrun, htail, value.valid]
  rfl

theorem parseNumber_append {text : List Char} {value : Json}
    (h : parseNumber text = some (value, c :: rest)) (more : List Char) :
    parseNumber (text ++ more) = some (value, c :: rest ++ more) := by
  unfold parseNumber at h
  simp only at h
  split at h
  · rename_i hnumber
    obtain ⟨hvalue, hdrop⟩ := Prod.mk.inj (Option.some.inj h)
    have hsplit : text = text.takeWhile isNumberChar ++ c :: rest := by
      rw [← hdrop, takeWhile_append_dropWhile]
    have hc : isNumberChar c = false := by
      have := dropWhile_get_zero_not isNumberChar text (by rw [hdrop]; simp)
      simpa [hdrop] using this
    have hstops : Stops (c :: rest ++ more) := by
      intro c' tail hcons
      obtain ⟨rfl, -⟩ := List.cons.inj hcons
      exact hc
    have hnum := parseNumber_render ⟨text.takeWhile isNumberChar, hnumber⟩ hstops
    rw [← hvalue]
    conv_lhs => rw [hsplit]
    rw [append_assoc]
    exact hnum
  · cases h

/-! ## Rigidity -/

theorem head?_eq_some_iff_cons {text : List Char} :
    text.head? = some c ↔ ∃ tail, text = c :: tail := by
  cases text <;> simp

theorem parseNumber_not_object {text : List Char} {value : Json}
    (h : parseNumber text = some (value, rest)) : value.isObject = false := by
  unfold parseNumber at h
  simp only at h
  split at h
  · cases h
    rfl
  · cases h

theorem parseMembers_nonempty {fuel : Nat} {text : List Char}
    {parsed : List (List Char × Json) × List Char} (h : parseMembers fuel text = some parsed) :
    text ≠ [] := by
  rintro rfl
  cases fuel with
  | zero => cases h
  | succ fuel => cases h

/-- What was read of a value that something follows, or of an object, is read the same with more
fuel and more text behind it. -/
theorem parse_extends : ∀ n m : Nat, n ≤ m →
    (∀ text value rest more, parseValue n text = some (value, rest) →
      (rest ≠ [] ∨ value.isObject = true) →
      parseValue m (text ++ more) = some (value, rest ++ more)) ∧
    ∀ text members rest more, parseMembers n text = some (members, rest) →
      parseMembers m (text ++ more) = some (members, rest ++ more) := by
  intro n
  induction n with
  | zero =>
    intro m _
    constructor
    · intro text value rest more h
      cases h
    · intro text members rest more h
      cases h
  | succ n ih =>
    intro m hm
    obtain ⟨m, rfl⟩ : ∃ k, m = k + 1 := ⟨m - 1, by omega⟩
    obtain ⟨ihValue, ihMembers⟩ := ih m (by omega)
    constructor
    · intro text value rest more h hfollowed
      cases text with
      | nil => cases h
      | cons c text =>
        rw [parseValue] at h
        rw [cons_append, parseValue]
        by_cases hobject : c = '{'
        · rw [if_pos hobject] at h ⊢
          by_cases hempty : text.head? = some '}'
          · obtain ⟨tail, rfl⟩ := head?_eq_some_iff_cons.mp hempty
            rw [if_pos hempty] at h
            cases h
            rfl
          · rw [if_neg hempty] at h
            obtain ⟨parsed, hparsed, h⟩ := Option.map_eq_some_iff.mp h
            cases h
            have hhead : ¬(text ++ more).head? = some '}' := by
              cases text with
              | nil =>
                have := parseMembers_nonempty hparsed
                exact absurd rfl this
              | cons => exact hempty
            rw [if_neg hhead, ihMembers _ _ _ more hparsed]
            rfl
        rw [if_neg hobject] at h ⊢
        by_cases hquote : c = '"'
        · rw [if_pos hquote] at h ⊢
          obtain ⟨parsed, hparsed, h⟩ := Option.map_eq_some_iff.mp h
          cases h
          rw [parseString_append hparsed]
          rfl
        rw [if_neg hquote] at h ⊢
        by_cases hn : c = 'n'
        · rw [if_pos hn] at h ⊢
          obtain ⟨tail, htail, h⟩ := Option.map_eq_some_iff.mp h
          cases h
          rw [stripPrefix_append htail]
          rfl
        rw [if_neg hn] at h ⊢
        by_cases ht : c = 't'
        · rw [if_pos ht] at h ⊢
          obtain ⟨tail, htail, h⟩ := Option.map_eq_some_iff.mp h
          cases h
          rw [stripPrefix_append htail]
          rfl
        rw [if_neg ht] at h ⊢
        by_cases hf : c = 'f'
        · rw [if_pos hf] at h ⊢
          obtain ⟨tail, htail, h⟩ := Option.map_eq_some_iff.mp h
          cases h
          rw [stripPrefix_append htail]
          rfl
        rw [if_neg hf] at h ⊢
        have hrest : rest ≠ [] := by
          rcases hfollowed with hrest | hvalue
          · exact hrest
          · rw [parseNumber_not_object h] at hvalue
            cases hvalue
        obtain ⟨next, tail, rfl⟩ := exists_cons_of_ne_nil hrest
        exact parseNumber_append h more
    · intro text members rest more h
      rw [parseMembers] at h ⊢
      obtain ⟨opened, hopened, h⟩ := Option.bind_eq_some_iff.mp h
      obtain ⟨key, hkey, h⟩ := Option.bind_eq_some_iff.mp h
      obtain ⟨afterColon, hcolon, h⟩ := Option.bind_eq_some_iff.mp h
      obtain ⟨value, hvalue, h⟩ := Option.bind_eq_some_iff.mp h
      rw [stripPrefix_append hopened, Option.bind_some, parseString_append hkey,
        Option.bind_some, stripPrefix_append hcolon, Option.bind_some]
      by_cases hclose : value.2.head? = some '}'
      · rw [if_pos hclose] at h
        obtain ⟨tail, htail⟩ := head?_eq_some_iff_cons.mp hclose
        have hne : value.2 ≠ [] := by
          rw [htail]
          simp
        rw [ihValue _ value.1 value.2 more hvalue (Or.inl hne), Option.bind_some]
        cases h
        simp [htail]
      · rw [if_neg hclose] at h
        by_cases hcomma : value.2.head? = some ','
        · rw [if_pos hcomma] at h
          obtain ⟨tail, htail⟩ := head?_eq_some_iff_cons.mp hcomma
          have hne : value.2 ≠ [] := by
            rw [htail]
            simp
          obtain ⟨others, hothers, h⟩ := Option.map_eq_some_iff.mp h
          cases h
          rw [ihValue _ value.1 value.2 more hvalue (Or.inl hne), Option.bind_some]
          have hmore := ihMembers _ _ _ more hothers
          simp only [htail, tail_cons] at hmore
          simp [htail, hmore]
        · rw [if_neg hcomma] at h
          cases h

/-! ## Round trip -/

theorem stops_cons (h : isNumberChar c = false) (rest : List Char) : Stops (c :: rest) := by
  intro c' tail hcons
  obtain ⟨rfl, -⟩ := List.cons.inj hcons
  exact h

theorem JsonNumber.text_ne_nil (value : JsonNumber) : value.text ≠ [] := by
  intro hnil
  have h := value.valid
  rw [hnil] at h
  exact absurd h (by decide)

theorem parseValue_number (value : JsonNumber) {fuel : Nat} (hrest : Stops rest) :
    parseValue (fuel + 1) (value.text ++ rest) = some (.number value, rest) := by
  obtain ⟨c, text, htext⟩ := exists_cons_of_ne_nil value.text_ne_nil
  have hc : isNumberChar c = true := by
    have h := value.chars
    rw [htext, all_cons, Bool.and_eq_true] at h
    exact h.1
  have hne : ∀ other, isNumberChar other = false → c ≠ other := by
    rintro other hother rfl
    rw [hc] at hother
    cases hother
  have h := parseNumber_render value hrest
  rw [htext, cons_append] at h ⊢
  rw [parseValue, if_neg (hne '{' (by decide)), if_neg (hne '"' (by decide)),
    if_neg (hne 'n' (by decide)), if_neg (hne 't' (by decide)), if_neg (hne 'f' (by decide))]
  exact h

theorem parseMembers_cons {fuel : Nat} (key : List Char) (value : Json) (tail : List Char)
    (h : parseValue fuel (value.render ++ tail) = some (value, tail)) :
    parseMembers (fuel + 1) (quote key ++ ':' :: (value.render ++ tail)) =
      if tail.head? = some '}' then some ([(key, value)], tail.tail)
      else if tail.head? = some ',' then
        (parseMembers fuel tail.tail).map fun more => ((key, value) :: more.1, more.2)
      else none := by
  have hkey : stripPrefix ['"'] (quote key ++ ':' :: (value.render ++ tail)) =
      some (key.flatMap escapeChar ++ '"' :: ':' :: (value.render ++ tail)) := by
    rw [stripPrefix_eq_some]
    simp [quote]
  have hcolon : stripPrefix [':'] (':' :: (value.render ++ tail)) =
      some (value.render ++ tail) := by
    rw [stripPrefix_eq_some]
    rfl
  rw [parseMembers, hkey, Option.bind_some, parseString_quote, Option.bind_some, hcolon,
    Option.bind_some, h, Option.bind_some]

theorem Json.render_ne_nil (value : Json) : value.render ≠ [] := by
  cases value with
  | null => exact cons_ne_nil _ _
  | bool value => cases value <;> exact cons_ne_nil _ _
  | number value => exact value.text_ne_nil
  | string value => exact cons_ne_nil _ _
  | object members => exact cons_ne_nil _ _

theorem renderMembers_head (key : List Char) (value : Json) (rest : List (List Char × Json))
    (more : List Char) : (renderMembers ((key, value) :: rest) ++ more).head? = some '"' := by
  cases rest with
  | nil => rfl
  | cons next rest => rfl

theorem parse_printed : ∀ fuel : Nat,
    (∀ (value : Json) (rest : List Char), value.render.length ≤ fuel → Stops rest →
      parseValue fuel (value.render ++ rest) = some (value, rest)) ∧
    ∀ (key : List Char) (value : Json) (members : List (List Char × Json)) (rest : List Char),
      (renderMembers ((key, value) :: members)).length ≤ fuel →
      parseMembers fuel (renderMembers ((key, value) :: members) ++ '}' :: rest) =
        some ((key, value) :: members, rest) := by
  intro fuel
  induction fuel with
  | zero =>
    constructor
    · intro value rest hfuel _
      exact absurd (length_eq_zero_iff.mp (Nat.le_zero.mp hfuel)) value.render_ne_nil
    · intro key value members rest hfuel
      have hhead := renderMembers_head key value members []
      rw [length_eq_zero_iff.mp (Nat.le_zero.mp hfuel)] at hhead
      cases hhead
  | succ fuel ih =>
    obtain ⟨ihValue, ihMembers⟩ := ih
    constructor
    · intro value rest hfuel hrest
      cases value with
      | null => rfl
      | bool value => cases value <;> rfl
      | number value => exact parseValue_number value hrest
      | string value =>
        show ((parseString (value.flatMap escapeChar ++ ['"'] ++ rest)).map _) = _
        rw [append_assoc, singleton_append, parseString_quote]
        rfl
      | object members =>
        cases members with
        | nil => rfl
        | cons member members =>
          obtain ⟨key, value⟩ := member
          have hlength : (renderMembers ((key, value) :: members)).length ≤ fuel := by
            simp only [Json.render, length_cons, length_append,
              length_nil] at hfuel
            omega
          have hmembers := ihMembers key value members rest hlength
          have hopen : ¬(renderMembers ((key, value) :: members) ++ '}' :: rest).head? =
              some '}' := by
            rw [renderMembers_head]
            decide
          rw [Json.render, cons_append, append_assoc, singleton_append,
            parseValue, if_pos rfl, if_neg hopen, hmembers]
          rfl
    · intro key value members rest hfuel
      cases members with
      | nil =>
        simp only [renderMembers, length_append, length_cons] at hfuel
        have hvalue := ihValue value ('}' :: rest) (by omega) (stops_cons (by decide) rest)
        rw [renderMembers, append_assoc, cons_append,
          parseMembers_cons key value _ hvalue, if_pos head?_cons]
        rfl
      | cons next members =>
        obtain ⟨nextKey, nextValue⟩ := next
        simp only [renderMembers, length_append, length_cons] at hfuel
        have hvalue := ihValue value
          (',' :: (renderMembers ((nextKey, nextValue) :: members) ++ '}' :: rest))
          (by omega) (stops_cons (by decide) _)
        have hmembers := ihMembers nextKey nextValue members rest (by omega)
        rw [renderMembers, append_assoc, cons_append, append_assoc,
          cons_append, parseMembers_cons key value _ hvalue, head?_cons,
          if_neg (by decide), if_pos rfl, tail_cons, hmembers]
        rfl

theorem Json.parse_render (value : Json) : Json.parse value.render = some value := by
  have hread := (parse_printed value.render.length).1 value [] (Nat.le_refl _)
    (by
      intro c tail hnil
      cases hnil)
  rw [append_nil] at hread
  unfold Json.parse
  rw [hread, Option.bind_some, if_pos rfl]

theorem Json.parse_extended {text : List Char} {value : Json} (h : Json.parse text = some value)
    (hobject : value.isObject = true) {more : List Char} (hmore : more ≠ []) :
    Json.parse (text ++ more) = none := by
  unfold Json.parse at h ⊢
  obtain ⟨⟨parsed, rest⟩, hparsed, h⟩ := Option.bind_eq_some_iff.mp h
  split_ifs at h with hrest
  cases h
  subst hrest
  have hlength : text.length ≤ (text ++ more).length := by simp
  rw [(parse_extends _ _ hlength).1 _ _ _ more hparsed (Or.inr hobject)]
  rw [Option.bind_some, if_neg (by simpa using hmore)]

theorem Json.render_object {value : Json} (h : value.isObject = true) :
    ∃ text, value.render = '{' :: text := by
  cases value with
  | object members => exact ⟨renderMembers members ++ ['}'], by rw [Json.render]⟩
  | null => cases h
  | bool value => cases h
  | number value => cases h
  | string value => cases h

theorem Json.parse_brace {text : List Char} {value : Json}
    (h : Json.parse ('{' :: text) = some value) : value.isObject = true := by
  unfold Json.parse at h
  obtain ⟨parsed, hparsed, h⟩ := Option.bind_eq_some_iff.mp h
  rw [length_cons, parseValue, if_pos rfl] at hparsed
  split_ifs at h hparsed with hrest hempty
  · cases hparsed
    cases h
    rfl
  · obtain ⟨members, -, hmembers⟩ := Option.map_eq_some_iff.mp hparsed
    subst hmembers
    cases h
    rfl

theorem Json.parse_torn {value : Json} (hobject : value.isObject = true) {start : List Char}
    (hsplit : value.render = start ++ rest) (hrest : rest ≠ []) : Json.parse start = none := by
  obtain ⟨text, htext⟩ := Json.render_object hobject
  cases hread : Json.parse start with
  | none => rfl
  | some parsed =>
    have hparsed : parsed.isObject = true := by
      cases start with
      | nil => cases hread
      | cons c start =>
        rw [htext, cons_append] at hsplit
        obtain ⟨rfl, -⟩ := List.cons.inj hsplit
        exact Json.parse_brace hread
    have hwhole := Json.parse_extended hread hparsed hrest
    rw [← hsplit, Json.parse_render] at hwhole
    cases hwhole

end SpxSpark.Lib
