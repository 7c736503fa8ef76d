import AckiNacki.Bitmask.Table

namespace ackinacki.types

open ackinacki.bitmask

/-- `AccountAddress(UInt256)`: 256 bits, with `&` taken byte by byte. -/
structure AccountAddress where
  val : BitVec 256
  deriving DecidableEq, Repr

/-- `UInt256::default()` is all zeros. -/
instance : Inhabited AccountAddress := ⟨⟨0⟩⟩

instance : AndOp AccountAddress := ⟨fun a b => ⟨a.val &&& b.val⟩⟩

/-- `DAppIdentifier(AccountAddress)`. -/
structure DAppIdentifier where
  val : AccountAddress
  deriving DecidableEq, Repr

instance : Inhabited DAppIdentifier := ⟨⟨default⟩⟩

instance : AndOp DAppIdentifier := ⟨fun a b => ⟨a.val &&& b.val⟩⟩

/-- `threads_table::AccountRouting(DAppIdentifier, AccountAddress)`, with `&` taken field by
    field. -/
structure AccountRouting where
  dapp_id : DAppIdentifier
  account_address : AccountAddress
  deriving DecidableEq, Repr

instance : Inhabited AccountRouting := ⟨⟨default, default⟩⟩

instance : AndOp AccountRouting :=
  ⟨fun a b => ⟨a.dapp_id &&& b.dapp_id, a.account_address &&& b.account_address⟩⟩

/-- `ThreadIdentifier([u8; 34])`; its default is all zeros. -/
structure ThreadIdentifier where
  val : Vector UInt8 34
  deriving DecidableEq, Repr

instance : Inhabited ThreadIdentifier := ⟨⟨Vector.replicate 34 0⟩⟩

/-- The default bitmask on routings matches every routing: nothing is meaningful. -/
theorem AccountRouting.default_is_match (bits : AccountRouting) :
    (default : Bitmask AccountRouting).is_match bits = true := by
  rw [Bitmask.default_is_match_iff]
  show (⟨⟨⟨bits.dapp_id.val.val &&& 0⟩⟩, ⟨bits.account_address.val &&& 0⟩⟩ : AccountRouting) =
    ⟨⟨⟨0 &&& 0⟩⟩, ⟨0 &&& 0⟩⟩
  simp

/-- `threads_table::ThreadsTable`. -/
abbrev ThreadsTable := BitmasksTable AccountRouting ThreadIdentifier

namespace ThreadsTable

open BitmasksTable

/-- The loop of `merge`. Both row lists are kept last row first, so the source's `last` and
    `pop` read and drop their heads. Each turn moves at least one row to the top of the merged
    table: a row both tables route to the same thread, a row of a thread the other table has
    further up, or else the row of `self`. -/
def merge_loop :
    List (Bitmask AccountRouting × ThreadIdentifier) →
      List (Bitmask AccountRouting × ThreadIdentifier) → ThreadsTable →
        Except String ThreadsTable
  | [], [], merged_table => .ok merged_table
  | (mask, thread_id) :: self_rows, [], merged_table =>
    match merged_table.insert_above 0 mask thread_id with
    | (.error e, _) => .error e
    | (.ok (), merged_table) => merge_loop self_rows [] merged_table
  | (mask, thread_id) :: self_rows, (mask2, thread_id2) :: another_table_rows, merged_table =>
    if thread_id = thread_id2 then
      if mask = mask2 then
        match merged_table.insert_above 0 mask thread_id with
        | (.error e, _) => .error e
        | (.ok (), merged_table) => merge_loop self_rows another_table_rows merged_table
      else .error "Condition failed: `&mask == mask2`"
    else if ((mask, thread_id) :: self_rows).any (fun row => row.2 = thread_id2) then
      match merged_table.insert_above 0 mask thread_id with
      | (.error e, _) => .error e
      | (.ok (), merged_table) =>
        merge_loop self_rows ((mask2, thread_id2) :: another_table_rows) merged_table
    else if ((mask2, thread_id2) :: another_table_rows).any (fun row => row.2 = thread_id) then
      match merged_table.insert_above 0 mask2 thread_id2 with
      | (.error e, _) => .error e
      | (.ok (), merged_table) =>
        merge_loop ((mask, thread_id) :: self_rows) another_table_rows merged_table
    else
      match merged_table.insert_above 0 mask thread_id with
      | (.error e, _) => .error e
      | (.ok (), merged_table) =>
        merge_loop self_rows ((mask2, thread_id2) :: another_table_rows) merged_table
  | [], (mask, thread_id) :: another_table_rows, merged_table =>
    match merged_table.insert_above 0 mask thread_id with
    | (.error e, _) => .error e
    | (.ok (), merged_table) => merge_loop [] another_table_rows merged_table
termination_by self_rows another_table_rows _ => self_rows.length + another_table_rows.length

/-- `ThreadsTable::merge`: both tables must end in the default rule; the merged rows go on top
    of a new table, which replaces `self` only when the whole merge succeeds. -/
def merge (self another_table : ThreadsTable) : Except String Unit × ThreadsTable :=
  if self.rows.getLast? ≠ some (default, default) then
    (.error ("Condition failed: `self_rows.pop() == Some((Bitmask::<AccountRouting>::default(), " ++
      "ThreadIdentifier::default()))`"), self)
  else if another_table.rows.getLast? ≠ some (default, default) then
    (.error ("Condition failed: `another_table_rows.pop() == " ++
      "Some((Bitmask::<AccountRouting>::default(), ThreadIdentifier::default()))`"), self)
  else
    match merge_loop self.rows.dropLast.reverse another_table.rows.dropLast.reverse new with
    | .error e => (.error e, self)
    | .ok merged_table => (.ok (), merged_table)

variable {self_rows another_table_rows : List (Bitmask AccountRouting × ThreadIdentifier)}
  {merged_table result : ThreadsTable}

theorem merge_loop_default_last
    (h : merge_loop self_rows another_table_rows merged_table = .ok result)
    (hlast : merged_table.DefaultLast) : result.DefaultLast := by
  fun_induction merge_loop self_rows another_table_rows merged_table
  case case1 =>
    cases h
    exact hlast
  all_goals first
    | exact absurd h (by simp)
    | (rename_i hinsert ih; exact ih h (hlast.of_insert_above_eq hinsert))

/-- What `merge` can do: fail and keep the table, or replace it by the merged table. -/
theorem merge_cases (self another_table : ThreadsTable) :
    (∃ e, self.merge another_table = (.error e, self)) ∨
      ∃ merged_table,
        merge_loop self.rows.dropLast.reverse another_table.rows.dropLast.reverse new =
          .ok merged_table ∧ self.merge another_table = (.ok (), merged_table) := by
  unfold merge
  cases hloop : merge_loop self.rows.dropLast.reverse another_table.rows.dropLast.reverse new with
  | error e =>
    left
    split_ifs <;> exact ⟨_, rfl⟩
  | ok merged_table =>
    split_ifs
    · exact Or.inl ⟨_, rfl⟩
    · exact Or.inl ⟨_, rfl⟩
    · exact Or.inr ⟨merged_table, rfl, rfl⟩

/-- A merge keeps the default rule last: on failure the table is kept, and on success the
    merged rows sit on top of a new table. -/
theorem merge_default_last {self : ThreadsTable} (hlast : self.DefaultLast)
    (another_table : ThreadsTable) : (self.merge another_table).2.DefaultLast := by
  rcases merge_cases self another_table with ⟨e, he⟩ | ⟨merged_table, hloop, hok⟩
  · rw [he]
    exact hlast
  · rw [hok]
    exact merge_loop_default_last hloop new_default_last

/-- The threads tables a node can build: a new table, changed by `insert_above`, `remove` and
    `merge` with any other table. -/
inductive Reachable : ThreadsTable → Prop
  | new : Reachable BitmasksTable.new
  | insert_above {table : ThreadsTable} (row_index : Nat) (mask : Bitmask AccountRouting)
      (thread : ThreadIdentifier) :
      Reachable table → Reachable (table.insert_above row_index mask thread).2
  | remove {table : ThreadsTable} (row_index : Nat) :
      Reachable table → Reachable (table.remove row_index).2
  | merge {table : ThreadsTable} (another_table : ThreadsTable) :
      Reachable table → Reachable (table.merge another_table).2

/-- Run lemma: every reachable table has the default rule last. -/
theorem Reachable.default_last {table : ThreadsTable} (hreach : Reachable table) :
    table.DefaultLast := by
  induction hreach with
  | new => exact new_default_last
  | insert_above row_index mask thread _ ih => exact ih.insert_above row_index mask thread
  | remove row_index _ ih => exact ih.remove row_index
  | merge another_table _ ih => exact merge_default_last ih another_table

end ThreadsTable

theorem threads_table_default_row_last (table : ThreadsTable) (hreach : ThreadsTable.Reachable table) :
    table.DefaultLast ∧ (∀ bits, (table.find_match bits).isSome) ∧
      (∀ row_index mask thread e, (table.insert_above row_index mask thread).1 = .error e →
        (table.insert_above row_index mask thread).2 = table) ∧
      (∀ row_index e, (table.remove row_index).1 = .error e → (table.remove row_index).2 = table) := by
  have hlast := hreach.default_last
  refine ⟨hlast, hlast.find_match_isSome AccountRouting.default_is_match, ?_, ?_⟩
  · intro row_index mask thread e h
    exact BitmasksTable.insert_above_of_error h
  · intro row_index e h
    exact BitmasksTable.remove_of_error h

theorem threads_table_new_default_row_last :
    (BitmasksTable.new : ThreadsTable).DefaultLast ∧
      (∀ bits, ((BitmasksTable.new : ThreadsTable).find_match bits).isSome) ∧
      (∀ row_index mask thread e,
        ((BitmasksTable.new : ThreadsTable).insert_above row_index mask thread).1 = .error e →
          ((BitmasksTable.new : ThreadsTable).insert_above row_index mask thread).2 =
            BitmasksTable.new) ∧
      (∀ row_index e, ((BitmasksTable.new : ThreadsTable).remove row_index).1 = .error e →
        ((BitmasksTable.new : ThreadsTable).remove row_index).2 = BitmasksTable.new) :=
  threads_table_default_row_last _ .new

end ackinacki.types
