import AckiNacki.Lib.Json
import AckiNacki.Lib.Iterate

namespace gql_server.schema.graphql.filter

open Json (Value)
open Str (strip_leading)

mutual

/-- `WhereOp::skip_nulls`: the fields of an object that are `null` are removed, and those that
    are objects have theirs removed in turn; arrays are left as they are. -/
def skip_nulls : Value → Value
  | .object entries => .object (skip_nulls_entries entries)
  | v => v

def skip_nulls_entries : List (String × Value) → List (String × Value)
  | [] => []
  | (k, v) :: entries =>
    if v.is_null then skip_nulls_entries entries else (k, skip_nulls v) :: skip_nulls_entries entries

end

/-- The SQL operator of a comparison key: `eq`, `ne`, `gt`, `lt`, `ge`, `le`. -/
def comparison_operator (key : String) : Option String :=
  if key = "eq" then some "="
  else if key = "ne" then some "<>"
  else if key = "gt" then some ">"
  else if key = "lt" then some "<"
  else if key = "ge" then some ">="
  else if key = "le" then some "<="
  else none

/-- The SQL operator of a list key: `include` and `notIn`. -/
def list_operator (key : String) : Option String :=
  if key = "include" then some "IN" else if key = "notIn" then some "NOT IN" else none

mutual

/-- `WhereOp::into_str` of a field and its value; the source wraps the condition in `Some`
    always, and `none` here is a panic. -/
def into_str (field : String) : Value → Option String
  | .object entries => (into_str_entries field entries).map fun conditions =>
    let op := " AND ".intercalate conditions
    if field = "or" then "OR (" ++ op ++ ")" else "AND " ++ op
  | _ => none

/-- The condition of each key of a field's object, in order. -/
def into_str_entries (field : String) : List (String × Value) → Option (List String)
  | [] => some []
  | (k, v) :: entries => do
    let condition ← match comparison_operator k, list_operator k, v with
      | some op, _, v => some (field ++ " " ++ op ++ " " ++ v.to_string)
      | none, some op, v => v.as_array.map fun elements =>
        field ++ " " ++ op ++ " (" ++ ",".intercalate (elements.map Value.to_string) ++ ")"
      | none, none, .object nested => (into_str k (.object nested)).bind (strip_leading · "AND ")
      | none, none, _ => none
    let conditions ← into_str_entries field entries
    pure (condition :: conditions)

end

/-- `WhereOp::to_where` of a filter serialized to `json`: `some none` for a filter with no field
    set, `none` for a panic. -/
def to_where (json : Value) : Option (Option String) := do
  let entries ← (skip_nulls json).as_object
  let conditions ← entries.mapM fun entry => into_str entry.1 entry.2
  let filtered := " ".intercalate conditions
  if !filtered.isEmpty then (strip_leading filtered "AND ").map fun rest => some ("WHERE " ++ rest)
  else pure none

mutual

/-- Whether `into_str` translates a value: an object each key of which is a comparison, a list
    operator with an array, or another field than `or` with a value it translates. -/
def accepted : Value → Bool
  | .object entries => accepted_entries entries
  | _ => false

def accepted_entries : List (String × Value) → Bool
  | [] => true
  | (k, v) :: entries =>
    (match comparison_operator k, list_operator k, v with
      | some _, _, _ => true
      | none, some _, v => v.as_array.isSome
      | none, none, .object nested => decide (k ≠ "or") && accepted (.object nested)
      | none, none, _ => false) && accepted_entries entries

end

/-- A condition is `AND` and the conditions of its operators, or `OR (…)` of them for `or`. -/
theorem into_str_eq_some {field : String} {v : Value} {condition : String}
    (h : into_str field v = some condition) :
    ∃ op, condition = if field = "or" then "OR (" ++ op ++ ")" else "AND " ++ op := by
  cases v with
  | object entries =>
    rw [into_str, Option.map_eq_some_iff] at h
    obtain ⟨conditions, -, rfl⟩ := h
    exact ⟨_, rfl⟩
  | _ => simp [into_str] at h

theorem strip_leading_or (op rest : String) : strip_leading ("OR (" ++ op ++ rest) "AND " = none := by
  rw [Str.strip_leading_eq_none_iff]
  simp [String.toList_append]

/-- A nested field loses the `AND ` of its condition, which only `or` lacks. -/
theorem into_str_bind_strip_isSome (k : String) (v : Value) :
    ((into_str k v).bind (strip_leading · "AND ")).isSome =
      (decide (k ≠ "or") && (into_str k v).isSome) := by
  cases h : into_str k v with
  | none => simp
  | some condition =>
    obtain ⟨op, rfl⟩ := into_str_eq_some h
    by_cases hor : k = "or" <;> simp [hor, strip_leading_or]

theorem isSome_bind_cons {α : Type} (head : Option α) (tail : Option (List α)) :
    (head.bind fun a => tail.bind fun as => some (a :: as)).isSome = (head.isSome && tail.isSome) := by
  cases head <;> cases tail <;> rfl

mutual

theorem into_str_isSome (field : String) : ∀ v : Value, (into_str field v).isSome = accepted v
  | .object entries => by
    rw [into_str, accepted, Option.isSome_map, into_str_entries_isSome field entries]
  | .null | .bool _ | .number _ | .string _ | .array _ => rfl

theorem into_str_entries_isSome (field : String) :
    ∀ entries, (into_str_entries field entries).isSome = accepted_entries entries
  | [] => rfl
  | (k, v) :: entries => by
    have hrest := into_str_entries_isSome field entries
    cases hcmp : comparison_operator k with
    | some op =>
      rw [into_str_entries.eq_2 field k entries v op hcmp, accepted_entries.eq_2 k entries v op hcmp]
      simp only [Option.bind_eq_bind, Option.pure_def, isSome_bind_cons, hrest, Option.isSome_some]
    | none =>
      cases hlist : list_operator k with
      | some op =>
        rw [into_str_entries.eq_3 field k entries v op hcmp hlist,
          accepted_entries.eq_3 k entries v hcmp op hlist]
        simp only [Option.bind_eq_bind, Option.pure_def, isSome_bind_cons, hrest, Option.isSome_map]
      | none =>
        by_cases hobject : ∃ nested, v = .object nested
        · obtain ⟨nested, rfl⟩ := hobject
          have hnested := into_str_isSome k (.object nested)
          rw [into_str_entries.eq_4 field k entries nested hcmp hlist,
            accepted_entries.eq_4 k entries nested hcmp hlist]
          simp only [Option.bind_eq_bind, Option.pure_def, isSome_bind_cons,
            into_str_bind_strip_isSome, hnested, hrest]
        · have hnot : ∀ nested, v = .object nested → False := fun nested h => hobject ⟨nested, h⟩
          rw [into_str_entries.eq_5 field k entries v hcmp hlist hnot,
            accepted_entries.eq_5 k entries v hcmp hlist hnot]
          rfl

end

/-- The `WHERE` clause of the conditions of a filter's fields, once each has translated. -/
theorem to_where_of_conditions {json : Value} {entries : List (String × Value)}
    {conditions : List String} (hskip : skip_nulls json = .object entries)
    (hconditions : entries.mapM (fun entry => into_str entry.1 entry.2) = some conditions) :
    to_where json = if !(" ".intercalate conditions).isEmpty then
        (strip_leading (" ".intercalate conditions) "AND ").map fun rest => some ("WHERE " ++ rest)
      else some none := by
  simp only [to_where, hskip, Value.as_object, Option.bind_eq_bind, Option.bind_some, hconditions,
    Option.pure_def]

/-- A filter whose first field is `or` panics: its condition starts with `OR (`. -/
theorem to_where_eq_none_of_or_first {json v : Value} {entries : List (String × Value)}
    (hskip : skip_nulls json = .object (("or", v) :: entries)) : to_where json = none := by
  cases hconditions : (("or", v) :: entries).mapM (fun entry => into_str entry.1 entry.2) with
  | none => simp [to_where, hskip, Value.as_object, hconditions]
  | some conditions =>
    obtain ⟨condition, conditions, hcondition, -, rfl⟩ := Iterate.mapM_cons_eq_some.mp hconditions
    obtain ⟨op, rfl⟩ := into_str_eq_some hcondition
    rw [to_where_of_conditions hskip hconditions, if_pos rfl, String.intercalate_cons_append]
    simp [strip_leading_or]

/-- `to_where` panics exactly when a field does not translate, or the first field is `or`. -/
theorem to_where_isSome_iff (json : Value) :
    (to_where json).isSome ↔ ∃ entries, skip_nulls json = .object entries ∧
      (∀ entry ∈ entries, accepted entry.2) ∧ entries.head?.map Prod.fst ≠ some "or" := by
  cases hskip : skip_nulls json with
  | object entries =>
    simp only [Value.object.injEq, exists_eq_left']
    have haccepted : (entries.mapM fun entry => into_str entry.1 entry.2).isSome ↔
        ∀ entry ∈ entries, accepted entry.2 := by
      simp only [Iterate.mapM_option_isSome, into_str_isSome]
    cases hconditions : entries.mapM (fun entry => into_str entry.1 entry.2) with
    | none =>
      have hnot : ¬ ∀ entry ∈ entries, accepted entry.2 := by simpa [hconditions] using haccepted
      have hnone : to_where json = none := by simp [to_where, hskip, Value.as_object, hconditions]
      rw [hnone, Option.isSome_none, Bool.false_eq_true, false_iff]
      exact fun h => hnot h.1
    | some conditions =>
      have hall : ∀ entry ∈ entries, accepted entry.2 := haccepted.mp (by simp [hconditions])
      rw [to_where_of_conditions hskip hconditions]
      cases entries with
      | nil =>
        obtain rfl : conditions = [] := by simpa using hconditions.symm
        simp
      | cons entry entries =>
        obtain ⟨condition, conditions, hcondition, -, rfl⟩ :=
          Iterate.mapM_cons_eq_some.mp hconditions
        obtain ⟨op, rfl⟩ := into_str_eq_some hcondition
        by_cases hor : entry.1 = "or"
        · simp [hor, strip_leading_or]
        · simp only [hor, if_false, String.intercalate_cons_append, Str.strip_leading_append]
          simpa [hor] using hall
  | _ => simp [to_where, hskip, Value.as_object]

theorem mem_skip_nulls_entries {k : String} {v : Value} :
    ∀ {entries : List (String × Value)}, (k, v) ∈ skip_nulls_entries entries →
      ∃ value, (k, value) ∈ entries ∧ value.is_null = false ∧ v = skip_nulls value
  | [], h => by simp [skip_nulls_entries] at h
  | (k', value) :: entries, h => by
    unfold skip_nulls_entries at h
    split_ifs at h with hnull
    · obtain ⟨value', hmem, hrest⟩ := mem_skip_nulls_entries h
      exact ⟨value', List.mem_cons_of_mem _ hmem, hrest⟩
    · rcases List.mem_cons.mp h with h | h
      · obtain ⟨rfl, rfl⟩ := Prod.mk.inj h
        exact ⟨value, List.mem_cons_self, by simpa using hnull, rfl⟩
      · obtain ⟨value', hmem, hrest⟩ := mem_skip_nulls_entries h
        exact ⟨value', List.mem_cons_of_mem _ hmem, hrest⟩

/-- An object each key of which is a comparison, or a list operator with a list or `null`. -/
theorem accepted_skip_nulls_of_operators : ∀ (entries : List (String × Value)),
    (∀ entry ∈ entries, (comparison_operator entry.1).isSome ∨
      ((list_operator entry.1).isSome ∧ (entry.2.is_null ∨ entry.2.as_array.isSome))) →
    accepted (skip_nulls (.object entries))
  | [], _ => rfl
  | (k, v) :: entries, h => by
    have hrest := accepted_skip_nulls_of_operators entries (fun entry he => h entry (List.mem_cons_of_mem _ he))
    simp only [skip_nulls, accepted] at hrest ⊢
    unfold skip_nulls_entries
    split_ifs with hnull
    · exact hrest
    · rcases h (k, v) List.mem_cons_self with hcmp | ⟨hlist, hvalue⟩
      · obtain ⟨op, hop⟩ := Option.isSome_iff_exists.mp hcmp
        rw [accepted_entries.eq_2 k _ _ op hop, hrest, Bool.true_and]
      · obtain ⟨op, hop⟩ := Option.isSome_iff_exists.mp hlist
        cases hcmp : comparison_operator k with
        | some op' => rw [accepted_entries.eq_2 k _ _ op' hcmp, hrest, Bool.true_and]
        | none =>
          rw [accepted_entries.eq_3 k _ _ hcmp op hop, hrest, Bool.and_true]
          cases v <;> simp_all [Value.is_null, Value.as_array, skip_nulls]

/-- An object each key of which is another field than `or` and an operator of neither kind,
    with a value that is `null` or an object that translates once its `null`s are gone. -/
theorem accepted_skip_nulls_of_fields : ∀ (entries : List (String × Value)),
    (∀ entry ∈ entries, entry.2.is_null ∨
      (comparison_operator entry.1 = none ∧ list_operator entry.1 = none ∧ entry.1 ≠ "or" ∧
        (∃ nested, entry.2 = .object nested) ∧ accepted (skip_nulls entry.2))) →
    accepted (skip_nulls (.object entries))
  | [], _ => rfl
  | (k, v) :: entries, h => by
    have hrest := accepted_skip_nulls_of_fields entries (fun entry he => h entry (List.mem_cons_of_mem _ he))
    simp only [skip_nulls, accepted] at hrest ⊢
    unfold skip_nulls_entries
    split_ifs with hnull
    · exact hrest
    · rcases h (k, v) List.mem_cons_self with hnull' | ⟨hcmp, hlist, hor, ⟨nested, rfl⟩, hnested⟩
      · exact absurd hnull' hnull
      · rw [skip_nulls, accepted_entries.eq_4 k _ _ hcmp hlist, hrest, Bool.and_true]
        simpa [skip_nulls, hor] using hnested

/-- A filter translates when every field it sets translates and none of them is `or`. -/
theorem to_where_isSome_of_fields (entries : List (String × Value))
    (hfields : ∀ k v, (k, v) ∈ entries → v.is_null = false → accepted (skip_nulls v) ∧ k ≠ "or") :
    (to_where (.object entries)).isSome := by
  rw [to_where_isSome_iff]
  refine ⟨skip_nulls_entries entries, rfl, fun entry hentry => ?_, fun hhead => ?_⟩
  · obtain ⟨value, hmem, hnull, hvalue⟩ := mem_skip_nulls_entries hentry
    rw [hvalue]
    exact (hfields _ value hmem hnull).1
  · obtain ⟨⟨k, v⟩, hfirst, hk⟩ := Option.map_eq_some_iff.mp hhead
    obtain ⟨value, hmem, hnull, -⟩ := mem_skip_nulls_entries (List.mem_of_mem_head? hfirst)
    exact (hfields k value hmem hnull).2 hk

/-- An `f64` of a filter, as the text `serde_json` writes for it. -/
structure F64 where
  text : String

/-- `BooleanFilter`. -/
structure BooleanFilter where
  eq : Option Bool := none
  ne : Option Bool := none

/-- The fields shared by `IntFilter` and `FloatFilter`. -/
structure NumberFilter (α : Type) where
  eq : Option α := none
  ne : Option α := none
  gt : Option α := none
  lt : Option α := none
  ge : Option α := none
  le : Option α := none
  «include» : Option (List (Option α)) := none
  notIn : Option (List (Option α)) := none

abbrev IntFilter := NumberFilter Int

abbrev FloatFilter := NumberFilter F64

/-- `StringFilter`. -/
structure StringFilter where
  eq : Option String := none
  ne : Option String := none
  ge : Option String := none
  le : Option String := none
  «include» : Option (List (Option String)) := none
  notIn : Option (List (Option String)) := none

/-- A `Vec<Option<T>>` field. -/
def list_to_value {α : Type} (to_value : α → Value) : Option (List (Option α)) → Value :=
  Value.of_option fun elements => .array (elements.map (Value.of_option to_value))

def BooleanFilter.to_value (filter : BooleanFilter) : Value :=
  .object [("eq", Value.of_option .bool filter.eq), ("ne", Value.of_option .bool filter.ne)]

def NumberFilter.to_value {α : Type} (number : α → Value) (filter : NumberFilter α) : Value :=
  .object [("eq", Value.of_option number filter.eq), ("ne", Value.of_option number filter.ne),
    ("gt", Value.of_option number filter.gt), ("lt", Value.of_option number filter.lt),
    ("ge", Value.of_option number filter.ge), ("le", Value.of_option number filter.le),
    ("include", list_to_value number filter.«include»), ("notIn", list_to_value number filter.notIn)]

def IntFilter.to_value (filter : IntFilter) : Value :=
  NumberFilter.to_value (fun i => .number (toString i)) filter

def FloatFilter.to_value (filter : FloatFilter) : Value :=
  NumberFilter.to_value (fun x => .number x.text) filter

def StringFilter.to_value (filter : StringFilter) : Value :=
  .object [("eq", Value.of_option .string filter.eq), ("ne", Value.of_option .string filter.ne),
    ("ge", Value.of_option .string filter.ge), ("le", Value.of_option .string filter.le),
    ("include", list_to_value .string filter.«include»),
    ("notIn", list_to_value .string filter.notIn)]

theorem list_to_value_null_or_array {α : Type} (to_value : α → Value)
    (elements : Option (List (Option α))) :
    (list_to_value to_value elements).is_null ∨ (list_to_value to_value elements).as_array.isSome := by
  cases elements <;> simp [list_to_value, Value.of_option, Value.is_null, Value.as_array]

theorem BooleanFilter.accepted_skip_nulls (filter : BooleanFilter) :
    accepted (skip_nulls filter.to_value) :=
  accepted_skip_nulls_of_operators _ (by simp [comparison_operator])

theorem NumberFilter.accepted_skip_nulls {α : Type} (number : α → Value) (filter : NumberFilter α) :
    accepted (skip_nulls (filter.to_value number)) :=
  accepted_skip_nulls_of_operators _ (by
    simp [comparison_operator, list_operator, list_to_value_null_or_array])

theorem StringFilter.accepted_skip_nulls (filter : StringFilter) :
    accepted (skip_nulls filter.to_value) :=
  accepted_skip_nulls_of_operators _ (by
    simp [comparison_operator, list_operator, list_to_value_null_or_array])

theorem IntFilter.accepted_skip_nulls (filter : IntFilter) :
    accepted (skip_nulls (IntFilter.to_value filter)) :=
  NumberFilter.accepted_skip_nulls _ filter

theorem FloatFilter.accepted_skip_nulls (filter : FloatFilter) :
    accepted (skip_nulls (FloatFilter.to_value filter)) :=
  NumberFilter.accepted_skip_nulls _ filter

/-- A filter field that is set translates. -/
theorem accepted_skip_nulls_of_option {α : Type} {to_value : α → Value}
    (haccepted : ∀ a, accepted (skip_nulls (to_value a))) {field : Option α}
    (hset : (Value.of_option to_value field).is_null = false) :
    accepted (skip_nulls (Value.of_option to_value field)) := by
  cases field with
  | none => simp [Value.of_option, Value.is_null] at hset
  | some a => exact haccepted a

end gql_server.schema.graphql.filter
