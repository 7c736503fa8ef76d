import Mathlib.Data.List.Basic

namespace Json

/-- A JSON value. -/
inductive Value where
  | null
  | bool (b : Bool)
  | number (text : String)
  | string (s : String)
  | array (elements : List Value)
  | object (entries : List (String × Value))
  deriving Repr

namespace Value

def is_null : Value → Bool
  | .null => true
  | _ => false

def as_object : Value → Option (List (String × Value))
  | .object entries => some entries
  | _ => none

def as_array : Value → Option (List Value)
  | .array elements => some elements
  | _ => none

/-- `None` serializes as `null`. -/
def of_option {α : Type} (to_value : α → Value) : Option α → Value
  | some a => to_value a
  | none => .null

end Value

/-- The escape `serde_json` writes for a character of a string: the two-character escapes, and
    `\u00XX` in lower-case hexadecimal for the other control characters. -/
def escape_char (c : Char) : String :=
  if c = '"' then "\\\""
  else if c = '\\' then "\\\\"
  else if c = '\n' then "\\n"
  else if c = '\r' then "\\r"
  else if c = '\t' then "\\t"
  else if c.toNat = 8 then "\\b"
  else if c.toNat = 12 then "\\f"
  else if c.toNat < 32 then
    "\\u00" ++ String.singleton (Nat.digitChar (c.toNat / 16)) ++
      String.singleton (Nat.digitChar (c.toNat % 16))
  else String.singleton c

/-- A string as a JSON string literal. -/
def quote (s : String) : String :=
  "\"" ++ String.join (s.toList.map escape_char) ++ "\""

mutual

/-- The compact text of a value, as `format!("{v}")` writes it. -/
def Value.to_string : Value → String
  | .null => "null"
  | .bool b => if b then "true" else "false"
  | .number text => text
  | .string s => quote s
  | .array elements => "[" ++ ",".intercalate (elements_to_string elements) ++ "]"
  | .object entries => "\x7b" ++ ",".intercalate (entries_to_string entries) ++ "\x7d"

def elements_to_string : List Value → List String
  | [] => []
  | v :: elements => v.to_string :: elements_to_string elements

def entries_to_string : List (String × Value) → List String
  | [] => []
  | (k, v) :: entries => (quote k ++ ":" ++ v.to_string) :: entries_to_string entries

end

end Json

namespace Str

/-- `str::strip_prefix`: the rest of `s` after `pre`, when `s` starts with it. -/
def strip_leading (s pre : String) : Option String :=
  if pre.toList.isPrefixOf s.toList then some (String.ofList (s.toList.drop pre.length)) else none

theorem strip_leading_eq_none_iff {s pre : String} :
    strip_leading s pre = none ↔ ¬ pre.toList <+: s.toList := by
  simp [strip_leading, List.isPrefixOf_iff_prefix]

@[simp]
theorem strip_leading_append (pre s : String) : strip_leading (pre ++ s) pre = some s := by
  have hdrop : (pre.toList ++ s.toList).drop pre.length = s.toList := by
    rw [← String.length_toList, List.drop_left]
  simp [strip_leading, List.isPrefixOf_iff_prefix, String.toList_append, hdrop,
    String.ofList_toList]

end Str
