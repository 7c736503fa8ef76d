import AckiNacki.LoadBalancing.AggregatedLoad

namespace ackinacki.multithreading.load_balancing_service

open ackinacki.types ackinacki.bitmask

/-- `ThreadAction`; a `Proposal` is its proposed threads table. -/
inductive ThreadAction
  | ContinueAsIs
  | Split (proposed_threads_table : ThreadsTable)
  | Collapse (proposed_threads_table : ThreadsTable)

/-- `try_threads_split`, given the identifier `ThreadIdentifier::new` derives from the produced
    block for the new thread. `none` is the panic of the `unwrap` of `insert_above`; the source
    never returns an error. -/
def try_threads_split (new_thread_id this_thread_id : ThreadIdentifier) (this_thread_row_index : Nat)
    (this_thread_aggregated_load : AggregatedLoad) (this_thread_bitmask : Bitmask AccountRouting)
    (max_load min_load max_load_disproportion_coefficient : Nat)
    (thread_with_max_load : ThreadIdentifier) (threads_table : ThreadsTable) (max_table_size : Nat) :
    Option ThreadAction :=
  if thread_with_max_load ≠ this_thread_id then some .ContinueAsIs
  else if threads_table.len ≥ max_table_size ∧
      max_load ≤ max_load_disproportion_coefficient * min_load then some .ContinueAsIs
  else
    match this_thread_aggregated_load.propose_new_bitmask this_thread_bitmask with
    | none => some .ContinueAsIs
    | some proposed_mask =>
      if threads_table.rows.any (fun row => row.1 = proposed_mask) then some .ContinueAsIs
      else
        match threads_table.insert_above this_thread_row_index proposed_mask new_thread_id with
        | (.ok (), proposed_threads_table) => some (.Split proposed_threads_table)
        | (.error _, _) => none

section TryThreadsSplit

variable {new_thread_id this_thread_id : ThreadIdentifier} {this_thread_row_index : Nat}
  {this_thread_aggregated_load : AggregatedLoad} {this_thread_bitmask : Bitmask AccountRouting}
  {max_load min_load max_load_disproportion_coefficient : Nat}
  {thread_with_max_load : ThreadIdentifier} {threads_table : ThreadsTable} {max_table_size : Nat}

/-- The `unwrap` never panics for a row of the table. -/
theorem try_threads_split_isSome (hrow : this_thread_row_index < threads_table.masks.length) :
    (try_threads_split new_thread_id this_thread_id this_thread_row_index
      this_thread_aggregated_load this_thread_bitmask max_load min_load
      max_load_disproportion_coefficient thread_with_max_load threads_table
      max_table_size).isSome := by
  unfold try_threads_split
  split_ifs
  · rfl
  · rfl
  · split
    · rfl
    · split_ifs
      · rfl
      · rw [(threads_table.insert_above_cases _ _ _).resolve_left ?_ |>.2]
        · rfl
        · rintro ⟨e, he⟩
          simp [BitmasksTable.insert_above, Nat.ne_of_lt hrow, hrow] at he

end TryThreadsSplit

/-- A split proposal narrows the row's mask by one free bit; inserted above the row, it takes
    over, of the row's thread, exactly the routings the narrower mask matches. -/
theorem find_match_insert_split {table : ThreadsTable} (hunique : (table.masks.map Prod.snd).Nodup)
    {row_index : Nat} {mask : Bitmask AccountRouting} {thread : ThreadIdentifier}
    (hrow : table.masks[row_index]? = some (mask, thread)) {load : InThreadAccountsLoad}
    {split : Bitmask AccountRouting} (hsplit : load.best_split mask = some split)
    (new_thread : ThreadIdentifier) (x : AccountRouting) :
    (table.insert_above row_index split new_thread).2.find_match x =
      if table.find_match x = some thread ∧ split.is_match x = true then some new_thread
      else table.find_match x := by
  obtain ⟨index, hindex, hfree, hmeaningful, hmask⟩ := InThreadAccountsLoad.best_split_spec hsplit
  apply BitmasksTable.find_match_insert_above hrow hunique new_thread
  intro bits hmatch
  exact AccountRouting.is_match_of_set_bit (by simp only [MAX_ROUTE_PART_SPLIT] at hindex; omega)
    hfree hmask hmeaningful hmatch

theorem best_split_narrows_routing (table : ThreadsTable)
    (hunique : (table.masks.map Prod.snd).Nodup) {row_index : Nat}
    {mask : Bitmask AccountRouting} {thread : ThreadIdentifier}
    (hrow : table.masks[row_index]? = some (mask, thread)) (load : InThreadAccountsLoad)
    {split : Bitmask AccountRouting} (hsplit : load.best_split mask = some split)
    (new_thread : ThreadIdentifier) :
    (∃ index < 256 * MAX_ROUTE_PART_SPLIT,
        mask.meaningful_mask_bits.get_bit_value index = some false ∧
        ∀ j < 512,
          split.meaningful_mask_bits.get_bit_value j =
            (mask.meaningful_mask_bits.get_bit_value j).map (· || decide (j = index)) ∧
          split.mask_bits.get_bit_value j =
            (mask.mask_bits.get_bit_value j).map (· || decide (j = index))) ∧
      (∀ x, split.is_match x = true → mask.is_match x = true) ∧
      (table.insert_above row_index split new_thread).1 = .ok () ∧
      (∀ x, (table.insert_above row_index split new_thread).2.find_match x =
        if table.find_match x = some thread ∧ split.is_match x = true then some new_thread
        else table.find_match x) ∧
      (∀ x, table.find_match x ≠ some thread →
        (table.remove row_index).2.find_match x = table.find_match x) ∧
      ∀ (x : AccountRouting) (outer : Fin 2) (inner : Fin 256),
        x.get_bit_value (outer.val * 256 + inner.val) = some (x.to_bits outer inner) := by
  obtain ⟨index, hindex, hfree, hmeaningful, hmask⟩ := InThreadAccountsLoad.best_split_spec hsplit
  have hindex_lt : index < 512 := by
    simp only [MAX_ROUTE_PART_SPLIT] at hindex
    omega
  have hlt : row_index < table.masks.length := (List.getElem?_eq_some_iff.mp hrow).1
  refine ⟨⟨index, hindex, ?_, fun j hj => ⟨?_, ?_⟩⟩, ?_, ?_, ?_, ?_, ?_⟩
  · rw [AccountRouting.get_bit_value_eq hindex_lt, hfree]
  · rw [AccountRouting.get_bit_value_eq hj, AccountRouting.get_bit_value_eq hj, hmeaningful j hj]
    rfl
  · rw [AccountRouting.get_bit_value_eq hj, AccountRouting.get_bit_value_eq hj, hmask j hj]
    rfl
  · intro x hmatch
    exact AccountRouting.is_match_of_set_bit hindex_lt hfree hmask hmeaningful hmatch
  · simp [BitmasksTable.insert_above, Nat.ne_of_lt hlt, hlt]
  · exact find_match_insert_split hunique hrow hsplit new_thread
  · exact BitmasksTable.find_match_remove hrow
  · intro x outer inner
    rw [AccountRouting.get_bit_value_eq (by omega), AccountRouting.to_bits_eq]

/-- The load of two counted messages that differ in every bit. -/
def even_load : InThreadAccountsLoad := ⟨2, fun _ _ => 1⟩

/-- The default mask with the first bit of the dapp identifier made meaningful and set. -/
def first_dapp_bit_split : Bitmask AccountRouting :=
  ⟨⟨⟨⟨1#256 <<< 255⟩⟩, ⟨0⟩⟩, ⟨⟨⟨1#256 <<< 255⟩⟩, ⟨0⟩⟩⟩

/-- A thread identifier other than the default one. -/
def split_thread : ThreadIdentifier := ⟨Vector.replicate 34 1⟩

theorem best_split_narrows_routing_of_new_table :
    ((BitmasksTable.new : ThreadsTable).masks.map Prod.snd).Nodup ∧
      (BitmasksTable.new : ThreadsTable).masks[0]? = some (default, default) ∧
      even_load.best_split default = some first_dapp_bit_split ∧
      (∃ index < 256 * MAX_ROUTE_PART_SPLIT,
        (default : Bitmask AccountRouting).meaningful_mask_bits.get_bit_value index = some false ∧
        ∀ j < 512,
          first_dapp_bit_split.meaningful_mask_bits.get_bit_value j =
            ((default : Bitmask AccountRouting).meaningful_mask_bits.get_bit_value j).map
              (· || decide (j = index)) ∧
          first_dapp_bit_split.mask_bits.get_bit_value j =
            ((default : Bitmask AccountRouting).mask_bits.get_bit_value j).map
              (· || decide (j = index))) ∧
      (∀ x, first_dapp_bit_split.is_match x = true →
        (default : Bitmask AccountRouting).is_match x = true) ∧
      ((BitmasksTable.new : ThreadsTable).insert_above 0 first_dapp_bit_split split_thread).1 =
        .ok () ∧
      (∀ x, ((BitmasksTable.new : ThreadsTable).insert_above 0 first_dapp_bit_split
          split_thread).2.find_match x =
        if (BitmasksTable.new : ThreadsTable).find_match x = some default ∧
            first_dapp_bit_split.is_match x = true then some split_thread
        else (BitmasksTable.new : ThreadsTable).find_match x) ∧
      (∀ x, (BitmasksTable.new : ThreadsTable).find_match x ≠ some default →
        ((BitmasksTable.new : ThreadsTable).remove 0).2.find_match x =
          (BitmasksTable.new : ThreadsTable).find_match x) ∧
      ∀ (x : AccountRouting) (outer : Fin 2) (inner : Fin 256),
        x.get_bit_value (outer.val * 256 + inner.val) = some (x.to_bits outer inner) :=
  ⟨by decide, rfl, by decide +kernel,
    best_split_narrows_routing _ (by decide) rfl even_load (by decide +kernel) split_thread⟩

end ackinacki.multithreading.load_balancing_service
