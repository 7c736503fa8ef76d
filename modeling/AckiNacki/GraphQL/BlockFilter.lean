import AckiNacki.GraphQL.Filter

namespace gql_server.schema.graphql.block.filter

open Json (Value)
open gql_server.schema.graphql.filter

/-- `ExtBlkRefFilter`. -/
structure ExtBlkRefFilter where
  end_lt : Option StringFilter := none
  file_hash : Option StringFilter := none
  root_hash : Option StringFilter := none
  seq_no : Option FloatFilter := none
  or : Option ExtBlkRefFilter := none

/-- `BlockFilter`. -/
structure BlockFilter where
  id : Option StringFilter := none
  after_merge : Option BooleanFilter := none
  after_split : Option BooleanFilter := none
  flags : Option IntFilter := none
  gen_utime : Option FloatFilter := none
  key_block : Option BooleanFilter := none
  prev_alt_ref : Option ExtBlkRefFilter := none
  prev_ref : Option ExtBlkRefFilter := none
  shard : Option StringFilter := none
  status : Option IntFilter := none
  tr_count : Option IntFilter := none
  workchain_id : Option IntFilter := none
  or : Option BlockFilter := none

/-- The fields of an `ExtBlkRefFilter` as `serde` writes them. -/
def ExtBlkRefFilter.entries : ExtBlkRefFilter → List (String × Value)
  | ⟨end_lt, file_hash, root_hash, seq_no, or⟩ =>
    [("end_lt", Value.of_option StringFilter.to_value end_lt),
      ("file_hash", Value.of_option StringFilter.to_value file_hash),
      ("root_hash", Value.of_option StringFilter.to_value root_hash),
      ("seq_no", Value.of_option FloatFilter.to_value seq_no),
      ("or", match or with
        | some or => .object or.entries
        | none => .null)]

/-- `#[serde(flatten, with = "prefix_…")]` of an optional filter: its fields, each key with the
    prefix, or nothing for `None`. -/
def flatten (pre : String) : Option ExtBlkRefFilter → List (String × Value)
  | some filter => filter.entries.map fun entry => (pre ++ entry.1, entry.2)
  | none => []

def BlockFilter.to_value : BlockFilter → Value
  | ⟨id, after_merge, after_split, flags, gen_utime, key_block, prev_alt_ref, prev_ref, shard,
      status, tr_count, workchain_id, or⟩ =>
    .object ([("id", Value.of_option StringFilter.to_value id),
        ("after_merge", Value.of_option BooleanFilter.to_value after_merge),
        ("after_split", Value.of_option BooleanFilter.to_value after_split),
        ("flags", Value.of_option IntFilter.to_value flags),
        ("gen_utime", Value.of_option FloatFilter.to_value gen_utime),
        ("key_block", Value.of_option BooleanFilter.to_value key_block)] ++
      flatten "prev_alt_ref_" prev_alt_ref ++ flatten "prev_ref_" prev_ref ++
      [("shard", Value.of_option StringFilter.to_value shard),
        ("status", Value.of_option IntFilter.to_value status),
        ("tr_count", Value.of_option IntFilter.to_value tr_count),
        ("workchain_id", Value.of_option IntFilter.to_value workchain_id),
        ("or", match or with
          | some or => or.to_value
          | none => .null)])

/-- `BlockFilter::to_where`. -/
def BlockFilter.to_where (filter : BlockFilter) : Option (Option String) :=
  gql_server.schema.graphql.filter.to_where filter.to_value

theorem BlockFilter.to_value_eq_object (filter : BlockFilter) :
    ∃ entries, filter.to_value = .object entries := by
  rw [BlockFilter.to_value.eq_def]
  cases filter
  exact ⟨_, rfl⟩

/-- A filter whose only field is `or` serializes, without its `null`s, to that one field. -/
theorem skip_nulls_or_only (or : BlockFilter) :
    skip_nulls ({ or := some or } : BlockFilter).to_value =
      .object [("or", skip_nulls or.to_value)] := by
  obtain ⟨entries, hentries⟩ := or.to_value_eq_object
  simp [BlockFilter.to_value, flatten, Value.of_option, skip_nulls, skip_nulls_entries,
    Value.is_null, hentries]

theorem to_where_panics_on_or_only_filter (or : BlockFilter) :
    BlockFilter.to_where { or := some or } = none :=
  to_where_eq_none_of_or_first (skip_nulls_or_only or)

/-- A set field is an object, and it translates. -/
theorem null_or_translates {α : Type} {to_value : α → Value}
    (haccepted : ∀ a, accepted (skip_nulls (to_value a)))
    (hobject : ∀ a, ∃ nested, to_value a = .object nested) (field : Option α) :
    (Value.of_option to_value field).is_null ∨
      ((∃ nested, Value.of_option to_value field = .object nested) ∧
        accepted (skip_nulls (Value.of_option to_value field))) := by
  cases field with
  | none => exact Or.inl rfl
  | some a => exact Or.inr ⟨hobject a, haccepted a⟩

/-- A reference filter with no `or` translates as a nested object. -/
theorem ExtBlkRefFilter.accepted_skip_nulls (ref : ExtBlkRefFilter) (hor : ref.or = none) :
    accepted (skip_nulls (.object ref.entries)) := by
  obtain ⟨end_lt, file_hash, root_hash, seq_no, or⟩ := ref
  simp only at hor
  subst hor
  have hstring := null_or_translates StringFilter.accepted_skip_nulls fun _ => ⟨_, rfl⟩
  have hfloat := null_or_translates FloatFilter.accepted_skip_nulls fun _ => ⟨_, rfl⟩
  apply accepted_skip_nulls_of_fields
  simp only [ExtBlkRefFilter.entries, List.forall_mem_cons, List.not_mem_nil, IsEmpty.forall_iff,
    implies_true, and_true]
  refine ⟨(hstring end_lt).imp_right fun h => ⟨by decide, by decide, by decide, h⟩,
    (hstring file_hash).imp_right fun h => ⟨by decide, by decide, by decide, h⟩,
    (hstring root_hash).imp_right fun h => ⟨by decide, by decide, by decide, h⟩,
    (hfloat seq_no).imp_right fun h => ⟨by decide, by decide, by decide, h⟩, Or.inl rfl⟩

/-- Every set field of a reference filter whose `or` has none translates. -/
theorem ExtBlkRefFilter.accepted_of_mem_entries (ref : ExtBlkRefFilter)
    (hor : ∀ nested ∈ ref.or, nested.or = none) {k : String} {v : Value}
    (hmem : (k, v) ∈ ref.entries) (hset : v.is_null = false) : accepted (skip_nulls v) := by
  obtain ⟨end_lt, file_hash, root_hash, seq_no, or⟩ := ref
  rw [ExtBlkRefFilter.entries.eq_def] at hmem
  simp only [List.mem_cons, Prod.mk.injEq, List.not_mem_nil, or_false] at hmem
  rcases hmem with ⟨-, rfl⟩ | ⟨-, rfl⟩ | ⟨-, rfl⟩ | ⟨-, rfl⟩ | ⟨-, rfl⟩
  · exact accepted_skip_nulls_of_option StringFilter.accepted_skip_nulls hset
  · exact accepted_skip_nulls_of_option StringFilter.accepted_skip_nulls hset
  · exact accepted_skip_nulls_of_option StringFilter.accepted_skip_nulls hset
  · exact accepted_skip_nulls_of_option FloatFilter.accepted_skip_nulls hset
  · cases or with
    | none => simp [Value.is_null] at hset
    | some nested => exact nested.accepted_skip_nulls (hor nested rfl)

theorem mem_flatten {pre k : String} {v : Value} {ref : Option ExtBlkRefFilter}
    (hmem : (k, v) ∈ flatten pre ref) :
    ∃ filter ∈ ref, ∃ k', (k', v) ∈ filter.entries ∧ k = pre ++ k' := by
  cases ref with
  | none => simp [flatten] at hmem
  | some filter =>
    obtain ⟨⟨k', v'⟩, hentry, hkv⟩ := List.mem_map.mp hmem
    obtain ⟨rfl, rfl⟩ := Prod.mk.inj hkv
    exact ⟨filter, rfl, k', hentry, rfl⟩

/-- A flattened key starts with its prefix, so it is not `or`. -/
theorem append_ne_or {pre : String} (k : String) (hpre : pre.toList.head? = some 'p') :
    pre ++ k ≠ "or" := by
  intro h
  have hhead : (pre ++ k).toList.head? = some 'o' := by rw [h]; rfl
  rw [String.toList_append, List.head?_append, hpre] at hhead
  simp at hhead

/-- A set field of a flattened reference whose `or` sets no `or` translates, under a key that
    is not `or`. -/
theorem accepted_of_mem_flatten {pre k : String} {v : Value} {ref : Option ExtBlkRefFilter}
    (hor : ∀ filter ∈ ref, ∀ nested ∈ filter.or, nested.or = none)
    (hpre : pre.toList.head? = some 'p') (hmem : (k, v) ∈ flatten pre ref)
    (hset : v.is_null = false) : accepted (skip_nulls v) ∧ k ≠ "or" := by
  obtain ⟨filter, hfilter, k', hk', rfl⟩ := mem_flatten hmem
  exact ⟨filter.accepted_of_mem_entries (hor filter hfilter) hk' hset, append_ne_or k' hpre⟩

/-- A block filter translates when it sets no `or`, and the `or` of each reference to a
    previous block sets no `or` in turn. -/
theorem BlockFilter.to_where_isSome (filter : BlockFilter) (hor : filter.or = none)
    (halt : ∀ ref ∈ filter.prev_alt_ref, ∀ nested ∈ ref.or, nested.or = none)
    (hprev : ∀ ref ∈ filter.prev_ref, ∀ nested ∈ ref.or, nested.or = none) :
    filter.to_where.isSome := by
  obtain ⟨id, after_merge, after_split, flags, gen_utime, key_block, prev_alt_ref, prev_ref,
    shard, status, tr_count, workchain_id, or⟩ := filter
  simp only at hor halt hprev
  subst hor
  rw [BlockFilter.to_where, BlockFilter.to_value.eq_def]
  apply to_where_isSome_of_fields
  intro k v hmem hset
  simp only [List.mem_append, List.mem_cons, Prod.mk.injEq, List.not_mem_nil, or_false] at hmem
  rcases hmem with (((⟨rfl, rfl⟩ | ⟨rfl, rfl⟩ | ⟨rfl, rfl⟩ | ⟨rfl, rfl⟩ | ⟨rfl, rfl⟩ | ⟨rfl, rfl⟩) |
    hflat) | hflat) | ⟨rfl, rfl⟩ | ⟨rfl, rfl⟩ | ⟨rfl, rfl⟩ | ⟨rfl, rfl⟩ | ⟨rfl, rfl⟩
  · exact ⟨accepted_skip_nulls_of_option StringFilter.accepted_skip_nulls hset, by decide⟩
  · exact ⟨accepted_skip_nulls_of_option BooleanFilter.accepted_skip_nulls hset, by decide⟩
  · exact ⟨accepted_skip_nulls_of_option BooleanFilter.accepted_skip_nulls hset, by decide⟩
  · exact ⟨accepted_skip_nulls_of_option IntFilter.accepted_skip_nulls hset, by decide⟩
  · exact ⟨accepted_skip_nulls_of_option FloatFilter.accepted_skip_nulls hset, by decide⟩
  · exact ⟨accepted_skip_nulls_of_option BooleanFilter.accepted_skip_nulls hset, by decide⟩
  · exact accepted_of_mem_flatten halt rfl hflat hset
  · exact accepted_of_mem_flatten hprev rfl hflat hset
  · exact ⟨accepted_skip_nulls_of_option StringFilter.accepted_skip_nulls hset, by decide⟩
  · exact ⟨accepted_skip_nulls_of_option IntFilter.accepted_skip_nulls hset, by decide⟩
  · exact ⟨accepted_skip_nulls_of_option IntFilter.accepted_skip_nulls hset, by decide⟩
  · exact ⟨accepted_skip_nulls_of_option IntFilter.accepted_skip_nulls hset, by decide⟩
  · simp [Value.is_null] at hset

theorem to_where_isSome_of_key_block_filter :
    ({ key_block := some { eq := some true }, workchain_id := some { eq := some (-1) } } :
      BlockFilter).to_where.isSome :=
  BlockFilter.to_where_isSome _ rfl (by simp) (by simp)

example :
    BlockFilter.to_where
      { key_block := some { eq := some true }, workchain_id := some { eq := some (-1) } } =
      some (some "WHERE key_block = true AND workchain_id = -1") := by
  decide +kernel

example :
    BlockFilter.to_where
      { prev_ref := some { root_hash := some { eq := some "ROOT_HASH" } }, or := some {
          prev_alt_ref := some {
            root_hash := some { eq := some "ALT_ROOT_HASH" }
            seq_no := some { eq := some ⟨"99.0"⟩ } } } } =
      some (some ("WHERE prev_ref_root_hash = \"ROOT_HASH\" OR (prev_alt_ref_root_hash = " ++
        "\"ALT_ROOT_HASH\" AND prev_alt_ref_seq_no = 99.0)")) := by
  decide +kernel

end gql_server.schema.graphql.block.filter
