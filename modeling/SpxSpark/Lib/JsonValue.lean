import Mathlib.Data.List.Basic
import Mathlib.Data.Rat.Defs

/-!
# JsonValue — JSON documents as Python reads them

What `json.loads` returns and `json.dump` takes: an object is a `dict`, whose members are looked up
by name and compared as a set of names, and an array is a `list`.
-/

namespace SpxSpark.Lib

open List

inductive JsonValue
  | null
  | bool (value : Bool)
  | int (value : Int)
  /-- A finite number that is not written as an integer. -/
  | float (value : ℚ)
  | infinity (negative : Bool)
  | string (value : List Char)
  | array (items : List JsonValue)
  | object (members : List (List Char × JsonValue))

namespace JsonValue

/-- `payload.get(name)` of the members of an object. -/
def get (name : List Char) (members : List (List Char × JsonValue)) : Option JsonValue :=
  (members.find? (·.1 = name)).map (·.2)

/-- `frozenset(payload) == frozenset(names)`. -/
def hasNames (names : List (List Char)) (members : List (List Char × JsonValue)) : Bool :=
  members.all (fun member => names.contains member.1) &&
    names.all fun name => members.any fun member => decide (member.1 = name)

/-- `{key: item for key, item in members if key != name}`. -/
def without (name : List Char) (members : List (List Char × JsonValue)) :
    List (List Char × JsonValue) :=
  members.filter (·.1 ≠ name)

/-- The text, where it is a `str`. -/
def text? : JsonValue → Option (List Char)
  | .string value => some value
  | _ => none

/-- The integer, where it is an `int` and not a `bool`. -/
def int? : JsonValue → Option Int
  | .int value => some value
  | _ => none

/-- The members, where it is a `dict`. -/
def object? : JsonValue → Option (List (List Char × JsonValue))
  | .object members => some members
  | _ => none

/-- The items, where it is a `list`. -/
def array? : JsonValue → Option (List JsonValue)
  | .array items => some items
  | _ => none

def isNull : JsonValue → Bool
  | .null => true
  | _ => false

/-- `bool(value)`. -/
def truthy : JsonValue → Bool
  | .null => false
  | .bool value => value
  | .int value => value ≠ 0
  | .float value => value ≠ 0
  | .infinity _ => true
  | .string value => value ≠ []
  | .array items => !items.isEmpty
  | .object members => !members.isEmpty

/-- The number, where it is an `int`, a `bool` or a finite `float`. -/
def number? : JsonValue → Option ℚ
  | .bool value => some (if value then 1 else 0)
  | .int value => some value
  | .float value => some value
  | _ => none

mutual

/-- `value == other`. -/
def equals : JsonValue → JsonValue → Bool
  | .null, .null => true
  | .string value, .string other => value = other
  | .infinity value, .infinity other => value = other
  | .array items, .array others => equalsItems items others
  | .object members, .object others =>
    members.length = others.length && equalsMembers members others
  | value, other => value.number?.isSome && value.number? == other.number?

def equalsItems : List JsonValue → List JsonValue → Bool
  | [], [] => true
  | value :: items, other :: others => equals value other && equalsItems items others
  | _, _ => false

/-- Each member is a member of the other. -/
def equalsMembers : List (List Char × JsonValue) → List (List Char × JsonValue) → Bool
  | [], _ => true
  | (name, value) :: members, others =>
    (match get name others with
      | some other => equals value other
      | none => false) && equalsMembers members others

end

mutual

/-- Some character of a text in the value, or of a name in it, is such a one. -/
def anyChar (p : Char → Bool) : JsonValue → Bool
  | .string value => value.any p
  | .array items => anyCharItems p items
  | .object members => anyCharMembers p members
  | _ => false

def anyCharItems (p : Char → Bool) : List JsonValue → Bool
  | [] => false
  | value :: items => anyChar p value || anyCharItems p items

def anyCharMembers (p : Char → Bool) : List (List Char × JsonValue) → Bool
  | [] => false
  | (name, value) :: members => name.any p || anyChar p value || anyCharMembers p members

end

/-! ## Members by name -/

variable {members : List (List Char × JsonValue)} {name : List Char}

theorem get_of_mem (hnames : (members.map (·.1)).Nodup) {member : List Char × JsonValue}
    (hmem : member ∈ members) : get member.1 members = some member.2 := by
  induction members with
  | nil => cases hmem
  | cons first rest ih =>
    rw [map_cons, nodup_cons] at hnames
    unfold get
    rcases mem_cons.mp hmem with rfl | hrest
    · rw [find?_cons_of_pos (by simp)]
      rfl
    · have hne : first.1 ≠ member.1 := fun heq =>
        hnames.1 (heq ▸ mem_map_of_mem hrest)
      rw [find?_cons_of_neg (by simpa using hne)]
      exact ih hnames.2 hrest

theorem exists_of_get {found : JsonValue} (h : get name members = some found) :
    ∃ member ∈ members, member.1 = name := by
  obtain ⟨member, hfind, _⟩ := Option.map_eq_some_iff.mp h
  exact ⟨member, mem_of_find?_eq_some hfind, by simpa using find?_some hfind⟩

theorem mem_without {member : List Char × JsonValue} :
    member ∈ without name members ↔ member ∈ members ∧ member.1 ≠ name := by
  simp [without]

theorem get_without {other : List Char} (h : name ≠ other) :
    get name (without other members) = get name members := by
  unfold get without
  rw [find?_filter]
  refine congrArg (Option.map _) (congrArg (List.find? · members) (funext fun member => ?_))
  by_cases hname : member.1 = name
  · simp [hname, h]
  · simp [hname]

theorem get_without_self (name : List Char) : get name (without name members) = none := by
  unfold get without
  rw [find?_filter, Option.map_eq_none_iff, find?_eq_none]
  intro member _
  simp

end JsonValue

end SpxSpark.Lib
