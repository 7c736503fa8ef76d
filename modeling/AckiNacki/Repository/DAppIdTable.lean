import AckiNacki.Bitmask.ThreadsTable
import AckiNacki.Lib.Iterate
import Mathlib.Tactic.Order

namespace ackinacki.repository

open ackinacki.types

variable {A D L : Type} [DecidableEq A] [LinearOrder L]

/-- The entry a write leaves: the incoming value when there is no entry or it is strictly
    newer, the current entry otherwise. -/
def newer (current : Option (Option D × L)) (value : Option D × L) : Option D × L :=
  match current with
  | some current => if value.2 > current.2 then value else current
  | none => value

/-- The `entry(..).and_modify(..).or_insert(..)` both merges make: replace the entry in place
    when the incoming value is strictly newer, insert it when there is none. -/
def keep_newer_entry (table : AList (fun _ : A => Option D × L)) (address : A)
    (value : Option D × L) : AList (fun _ : A => Option D × L) :=
  match table.lookup address with
  | some current => if value.2 > current.2 then table.replace address value else table
  | none => table.insert address value

/-- `DAppIdTableChangeSet`. -/
structure DAppIdTableChangeSet (A D L : Type) [DecidableEq A] where
  inner : AList (fun _ : A => Option D × L)

/-- `DAppIdTable`. -/
structure DAppIdTable (A D L : Type) [DecidableEq A] where
  inner : AList (fun _ : A => Option D × L)

namespace DAppIdTableChangeSet

def empty : DAppIdTableChangeSet A D L := ⟨∅⟩

def insert (self : DAppIdTableChangeSet A D L) (address : A) (dapp_id : Option D)
    (block_lt : L) : DAppIdTableChangeSet A D L :=
  ⟨keep_newer_entry self.inner address (dapp_id, block_lt)⟩

def is_empty (self : DAppIdTableChangeSet A D L) : Bool := self.inner.entries.isEmpty

def get_value (self : DAppIdTableChangeSet A D L) (address : A) : Option (Option D × L) :=
  self.inner.lookup address

end DAppIdTableChangeSet

namespace DAppIdTable

def empty : DAppIdTable A D L := ⟨∅⟩

def get (self : DAppIdTable A D L) (address : A) : Option (Option D × L) :=
  self.inner.lookup address

/-- `DAppIdTable::apply_change_set`: write every entry of the change set over the table. -/
def apply_change_set (self : DAppIdTable A D L) (change_set : DAppIdTableChangeSet A D L) :
    DAppIdTable A D L :=
  if !change_set.is_empty then
    ⟨change_set.inner.entries.foldl
      (fun table entry => keep_newer_entry table entry.1 entry.2) self.inner⟩
  else self

end DAppIdTable

theorem lookup_keep_newer_entry (table : AList (fun _ : A => Option D × L)) (address : A)
    (value : Option D × L) (a : A) :
    (keep_newer_entry table address value).lookup a =
      if a = address then some (newer (table.lookup address) value) else table.lookup a := by
  unfold keep_newer_entry
  cases hcurrent : table.lookup address with
  | none =>
    by_cases ha : a = address
    · subst ha
      simp [newer]
    · simp [AList.lookup_insert_ne ha, ha]
  | some current =>
    have hmem : address ∈ table := Iterate.mem_of_lookup_eq_some hcurrent
    dsimp only
    split_ifs with hnewer ha ha
    · subst ha
      simp [Iterate.lookup_replace, hmem, newer, hnewer]
    · simp [Iterate.lookup_replace, ha]
    · subst ha
      simp [hcurrent, newer, hnewer]
    · rfl

/-- A loop of writes with distinct addresses leaves each address with the newer of its old entry
    and its write. -/
theorem lookup_foldl_keep_newer_entry :
    ∀ {entries : List ((_ : A) × (Option D × L))} (table : AList (fun _ : A => Option D × L)),
      entries.NodupKeys → ∀ a,
        (entries.foldl (fun table entry => keep_newer_entry table entry.1 entry.2) table).lookup a =
          match entries.dlookup a with
          | some value => some (newer (table.lookup a) value)
          | none => table.lookup a
  | [], table, _, a => by simp
  | ⟨address, value⟩ :: entries, table, hnodup, a => by
    obtain ⟨haddress, hentries⟩ := List.nodupKeys_cons.mp hnodup
    rw [List.foldl_cons, lookup_foldl_keep_newer_entry _ hentries a]
    by_cases ha : a = address
    · subst ha
      rw [List.dlookup_eq_none.mpr haddress, List.dlookup_cons_eq, lookup_keep_newer_entry,
        if_pos rfl]
    · rw [List.dlookup_cons_ne _ _ ha, lookup_keep_newer_entry, if_neg ha]

/-- What a merge leaves at an address: the newer of the table's entry and the change set's. -/
theorem get_apply_change_set (table : DAppIdTable A D L) (change_set : DAppIdTableChangeSet A D L)
    (address : A) :
    (table.apply_change_set change_set).get address =
      match change_set.get_value address with
      | some value => some (newer (table.get address) value)
      | none => table.get address := by
  unfold DAppIdTable.apply_change_set
  split_ifs with hnonempty
  · exact lookup_foldl_keep_newer_entry _ change_set.inner.nodupKeys address
  · have hempty : change_set.inner.entries = [] := by
      simpa [DAppIdTableChangeSet.is_empty] using hnonempty
    have hnone : change_set.get_value address = none := by
      simp [DAppIdTableChangeSet.get_value, AList.lookup, hempty]
    rw [hnone]

/-- What an insert leaves at an address. -/
theorem get_value_insert (change_set : DAppIdTableChangeSet A D L) (address : A)
    (dapp_id : Option D) (block_lt : L) (a : A) :
    (change_set.insert address dapp_id block_lt).get_value a =
      if a = address then some (newer (change_set.get_value address) (dapp_id, block_lt))
      else change_set.get_value a :=
  lookup_keep_newer_entry _ _ _ a

/-- Writing the same value twice is writing it once. -/
theorem newer_newer_self (current : Option (Option D × L)) (value : Option D × L) :
    newer (some (newer current value)) value = newer current value := by
  cases current with
  | none => simp [newer]
  | some current =>
    by_cases hnewer : value.2 > current.2
    · simp [newer, hnewer]
    · simp [newer, hnewer]

/-- Two writes with different logical times, or equal values, commute. -/
theorem newer_comm (current : Option (Option D × L)) {value value' : Option D × L}
    (hdistinct : value.2 ≠ value'.2 ∨ value = value') :
    newer (some (newer current value)) value' = newer (some (newer current value')) value := by
  rcases hdistinct with hne | rfl
  · cases current with
    | none =>
      rcases lt_or_gt_of_ne hne with hlt | hgt
      · simp [newer, hlt, not_lt_of_gt hlt]
      · simp [newer, hgt, not_lt_of_gt hgt]
    | some current =>
      simp only [newer]
      split_ifs <;> first | rfl | (exfalso; order)
  · rfl

/-- Applying a change set twice is applying it once. -/
theorem get_apply_change_set_twice (table : DAppIdTable A D L)
    (change_set : DAppIdTableChangeSet A D L) (address : A) :
    ((table.apply_change_set change_set).apply_change_set change_set).get address =
      (table.apply_change_set change_set).get address := by
  cases hvalue : change_set.get_value address with
  | none => simp only [get_apply_change_set, hvalue]
  | some value => simp only [get_apply_change_set, hvalue, newer_newer_self]

/-- Two change sets commute at every address where they do not write different entries with
    the same logical time. -/
theorem get_apply_change_set_comm (table : DAppIdTable A D L)
    (first second : DAppIdTableChangeSet A D L) (address : A)
    (hdistinct : ∀ value value', first.get_value address = some value →
      second.get_value address = some value' → value.2 ≠ value'.2 ∨ value = value') :
    ((table.apply_change_set first).apply_change_set second).get address =
      ((table.apply_change_set second).apply_change_set first).get address := by
  cases hfirst : first.get_value address with
  | none => cases hsecond : second.get_value address <;> simp only [get_apply_change_set, hfirst, hsecond]
  | some value =>
    cases hsecond : second.get_value address with
    | none => simp only [get_apply_change_set, hfirst, hsecond]
    | some value' =>
      simp only [get_apply_change_set, hfirst, hsecond]
      rw [newer_comm _ (hdistinct value value' hfirst hsecond)]

/-- Two inserts into a change set commute unless they write different entries with the same
    logical time to one address. -/
theorem get_value_insert_comm (change_set : DAppIdTableChangeSet A D L) (address address' : A)
    (dapp_id dapp_id' : Option D) (block_lt block_lt' : L)
    (hdistinct : address = address' →
      block_lt ≠ block_lt' ∨ (dapp_id, block_lt) = (dapp_id', block_lt')) (a : A) :
    ((change_set.insert address dapp_id block_lt).insert address' dapp_id' block_lt').get_value a =
      ((change_set.insert address' dapp_id' block_lt').insert address dapp_id block_lt).get_value a := by
  simp only [get_value_insert]
  by_cases hsame : address = address'
  · subst hsame
    by_cases ha : a = address
    · subst ha
      simp only [if_true]
      rw [newer_comm _ (hdistinct rfl)]
    · simp [ha]
  · by_cases ha : a = address
    · subst ha
      simp [hsame]
    · by_cases ha' : a = address'
      · subst ha'
        simp [ha]
      · simp [ha, ha']

/-- Change sets and the table keep the newer entry: a merge leaves at each address the newer of
    the table's entry and the change set's, merging twice is merging once, and two merges, or
    two inserts into a change set, commute wherever they do not write different entries with the
    same logical time. -/
theorem change_sets_keep_newer_entry :
    (∀ (table : DAppIdTable A D L) (change_set : DAppIdTableChangeSet A D L) address,
      (table.apply_change_set change_set).get address =
        match change_set.get_value address with
        | some value => some (newer (table.get address) value)
        | none => table.get address) ∧
    (∀ (table : DAppIdTable A D L) (change_set : DAppIdTableChangeSet A D L) address,
      ((table.apply_change_set change_set).apply_change_set change_set).get address =
        (table.apply_change_set change_set).get address) ∧
    (∀ (table : DAppIdTable A D L) (first second : DAppIdTableChangeSet A D L) address,
      (∀ value value', first.get_value address = some value →
        second.get_value address = some value' → value.2 ≠ value'.2 ∨ value = value') →
      ((table.apply_change_set first).apply_change_set second).get address =
        ((table.apply_change_set second).apply_change_set first).get address) ∧
    ∀ (change_set : DAppIdTableChangeSet A D L) address address' dapp_id dapp_id'
      (block_lt block_lt' : L),
      (address = address' → block_lt ≠ block_lt' ∨ (dapp_id, block_lt) = (dapp_id', block_lt')) →
      ∀ a, ((change_set.insert address dapp_id block_lt).insert address' dapp_id'
          block_lt').get_value a =
        ((change_set.insert address' dapp_id' block_lt').insert address dapp_id
          block_lt).get_value a :=
  ⟨get_apply_change_set, get_apply_change_set_twice,
    fun table first second address hdistinct =>
      get_apply_change_set_comm table first second address hdistinct,
    fun change_set address address' dapp_id dapp_id' block_lt block_lt' hdistinct a =>
      get_value_insert_comm change_set address address' dapp_id dapp_id' block_lt block_lt'
        hdistinct a⟩

/-- One write to the zero address: the dapp identifier `dapp`, at logical time `5`. -/
def write_at_five (dapp : Nat) : DAppIdTableChangeSet AccountAddress DAppIdentifier Nat :=
  DAppIdTableChangeSet.empty.insert default (some ⟨⟨dapp⟩⟩) 5

/-- The empty table of the node's types. -/
def empty_dapp_id_table : DAppIdTable AccountAddress DAppIdentifier Nat := DAppIdTable.empty

theorem apply_change_set_order_breaks_ties :
    ((empty_dapp_id_table.apply_change_set (write_at_five 1)).apply_change_set
        (write_at_five 2)).get default = some (some ⟨⟨1⟩⟩, 5) ∧
      ((empty_dapp_id_table.apply_change_set (write_at_five 2)).apply_change_set
        (write_at_five 1)).get default = some (some ⟨⟨2⟩⟩, 5) ∧
      ((write_at_five 1).insert default (some ⟨⟨2⟩⟩) 5).get_value default =
        some (some ⟨⟨1⟩⟩, 5) ∧
      ((write_at_five 2).insert default (some ⟨⟨1⟩⟩) 5).get_value default =
        some (some ⟨⟨2⟩⟩, 5) := by
  refine ⟨?_, ?_, ?_, ?_⟩ <;> decide

end ackinacki.repository
