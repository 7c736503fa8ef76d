import AckiNacki.BlockKeeper.KeeperSet

namespace ackinacki.types

open ackinacki.block_keeper_system

/-- `usize::MAX` on a 64-bit target. -/
def USIZE_MAX : Nat := 2 ^ 64 - 1

/-- `ProducerSelector`: the seed of the shuffle and the producer's position after it. -/
structure ProducerSelector (I : Type) where
  rng_seed_block_id : I
  index : Nat
  deriving DecidableEq, Repr

namespace ProducerSelector

variable {I S P N : Type} [DecidableEq S] [LinearOrder N] (shuffle : I → List N → List N)

def get_producer_node_id (self : ProducerSelector I) (bk_set : BlockKeeperSet S P N) :
    Except String N :=
  let sorted_node_id_list := shuffle self.rng_seed_block_id bk_set.iter_node_ids
  if h : self.index < sorted_node_id_list.length then .ok sorted_node_id_list[self.index]
  else .error "Producer selector index out of bounds"

def is_node_bp (self : ProducerSelector I) (bk_set : BlockKeeperSet S P N) (node_id : N) :
    Except String Bool := do
  return (← self.get_producer_node_id shuffle bk_set) == node_id

/-- `get_distance_from_bp`: how many turns after the producer the node comes, counted among the
    node identifiers. -/
def get_distance_from_bp (self : ProducerSelector I) (bk_set : BlockKeeperSet S P N)
    (node_id : N) : Option Nat :=
  let sorted_node_id_list := bk_set.iter_node_ids
  let total_bk_cnt := sorted_node_id_list.length
  if self.index ≥ total_bk_cnt then none
  else
    let sorted_node_id_list := shuffle self.rng_seed_block_id sorted_node_id_list
    match sorted_node_id_list.findIdx? (· == node_id) with
    | some position =>
      some (if position ≥ self.index then position - self.index
        else total_bk_cnt - self.index + position)
    | none => none

/-- `check_whether_this_node_is_bp_based_on_bk_set_and_index_offset`; `none` is the panic of
    the remainder by an empty set's `len()`. The distance counts positions among the node
    identifiers while the offset is reduced by `len()`, the number of keepers: the two agree only
    while the set has one node identifier per keeper. -/
def check_whether_this_node_is_bp_based_on_bk_set_and_index_offset (self : ProducerSelector I)
    (bk_set : BlockKeeperSet S P N) (node_id : N) (offset : Nat) : Option Bool :=
  match self.get_distance_from_bp shuffle bk_set node_id with
  | some distance => if bk_set.len = 0 then none else some (distance == offset % bk_set.len)
  | none => some false

end ProducerSelector

/-- `move_index`; `none` is the panic of the `usize` addition overflowing or of the remainder
    by zero. -/
def ProducerSelector.move_index {I : Type} (self : ProducerSelector I) (diff bk_set_size : Nat) :
    Option (ProducerSelector I) :=
  if self.index + diff > USIZE_MAX ∨ bk_set_size = 0 then none
  else some ⟨self.rng_seed_block_id, (self.index + diff) % bk_set_size⟩

/-- The turns from the producer's position to a node's position, as `get_distance_from_bp`
    counts them, are `offset` modulo the set size exactly when the node sits `offset` turns
    after the producer. -/
theorem distance_eq_mod_iff {position index total offset : Nat} (hposition : position < total)
    (hindex : index < total) :
    (if position ≥ index then position - index else total - index + position) = offset % total ↔
      position = (index + offset) % total := by
  have hmod : (index + offset) % total = (index + offset % total) % total := by
    rw [Nat.add_mod, Nat.mod_eq_of_lt hindex]
  obtain ⟨r, hr, hlt⟩ : ∃ r, offset % total = r ∧ r < total := ⟨_, rfl, Nat.mod_lt _ (by omega)⟩
  rw [hmod, hr]
  have hsum : (index + r) % total = if index + r < total then index + r else index + r - total := by
    split_ifs with hwrap
    · exact Nat.mod_eq_of_lt hwrap
    · rw [Nat.mod_eq_sub_mod (Nat.le_of_not_lt hwrap), Nat.mod_eq_of_lt (by omega)]
  rw [hsum]
  split_ifs <;> omega

/-- The producer `offset` turns after the selector is the node at that turn of the shuffled
    list, when the turn is inside it. -/
theorem producer_after_move_iff {I S P N : Type} [DecidableEq S] [LinearOrder N]
    {shuffle : I → List N → List N} (selector : ProducerSelector I) (bk_set : BlockKeeperSet S P N)
    {offset : Nat} (hroom : selector.index + offset ≤ USIZE_MAX) (hsize : 0 < bk_set.len)
    (hturn : (selector.index + offset) % bk_set.len <
      (shuffle selector.rng_seed_block_id bk_set.iter_node_ids).length) (node_id : N) :
    (∃ producer, selector.move_index offset bk_set.len = some producer ∧
        producer.get_producer_node_id shuffle bk_set = .ok node_id) ↔
      (shuffle selector.rng_seed_block_id bk_set.iter_node_ids)[(selector.index + offset) %
        bk_set.len] = node_id := by
  have hmove : selector.move_index offset bk_set.len =
      some ⟨selector.rng_seed_block_id, (selector.index + offset) % bk_set.len⟩ := by
    rw [ProducerSelector.move_index, if_neg (by omega)]
  simp [hmove, ProducerSelector.get_producer_node_id, dif_pos hturn]

section Agree

variable {I S P N : Type} [DecidableEq S] [LinearOrder N] {shuffle : I → List N → List N}
  (hshuffle : ∀ seed nodes, (shuffle seed nodes).Perm nodes) {bk_set : BlockKeeperSet S P N}

include hshuffle in
omit [DecidableEq S] in
/-- The shuffled node list is a permutation of the node index's keys. -/
theorem shuffled_perm_keys (seed : I) :
    (shuffle seed bk_set.iter_node_ids).Perm bk_set.signer_by_node_id.keys :=
  (hshuffle seed _).trans (List.perm_insertionSort _ _)

include hshuffle in
/-- While the indexes agree, the node ids are `len()` distinct nodes, however shuffled, so the
    selector's check and the producer it moves to agree: a node is `offset` turns after the
    producer exactly when it is the producer `offset` turns later. -/
theorem IndexesAgree.check_iff_producer (hagree : bk_set.IndexesAgree)
    (selector : ProducerSelector I) (hindex : selector.index < bk_set.len) (offset : Nat)
    (hroom : selector.index + offset ≤ USIZE_MAX) (node_id : N) :
    selector.check_whether_this_node_is_bp_based_on_bk_set_and_index_offset shuffle bk_set node_id
        offset = some true ↔
      ∃ producer, selector.move_index offset bk_set.len = some producer ∧
        producer.get_producer_node_id shuffle bk_set = .ok node_id := by
  have hperm : (shuffle selector.rng_seed_block_id bk_set.iter_node_ids).Perm
      bk_set.signer_by_node_id.keys :=
    shuffled_perm_keys hshuffle selector.rng_seed_block_id
  have hlength : (shuffle selector.rng_seed_block_id bk_set.iter_node_ids).length = bk_set.len := by
    rw [hperm.length_eq, ← hagree.len_eq]
  have hnodes : bk_set.iter_node_ids.length = bk_set.len := by
    rw [BlockKeeperSet.iter_node_ids, List.length_insertionSort, ← hagree.len_eq]
  have hnodup : (shuffle selector.rng_seed_block_id bk_set.iter_node_ids).Nodup :=
    hperm.nodup_iff.mpr bk_set.signer_by_node_id.keys_nodup
  have hturn : (selector.index + offset) % bk_set.len <
      (shuffle selector.rng_seed_block_id bk_set.iter_node_ids).length := by
    rw [hlength]
    exact Nat.mod_lt _ (by omega)
  rw [producer_after_move_iff selector bk_set hroom (by omega) hturn]
  simp only [ProducerSelector.check_whether_this_node_is_bp_based_on_bk_set_and_index_offset,
    ProducerSelector.get_distance_from_bp, hnodes, if_neg (Nat.not_le.mpr hindex)]
  cases hfind : (shuffle selector.rng_seed_block_id bk_set.iter_node_ids).findIdx? (· == node_id)
    with
  | none =>
    rw [List.findIdx?_eq_none_iff] at hfind
    simp only [Option.some.injEq, Bool.false_eq_true, false_iff]
    intro hat
    have := hfind _ (List.getElem_mem hturn)
    simp [hat] at this
  | some position =>
    obtain ⟨hposition, hat, _⟩ := List.findIdx?_eq_some_iff_getElem.mp hfind
    rw [beq_iff_eq] at hat
    dsimp only
    rw [if_neg (show ¬ bk_set.len = 0 by omega), Option.some.injEq, beq_iff_eq,
      distance_eq_mod_iff (hlength ▸ hposition) hindex, ← hat, hnodup.getElem_inj_iff, eq_comm]

/-- Signers `1` and `2`, staking nodes `7` and `8`. -/
def two_keepers : BlockKeeperSet Nat Nat Nat :=
  (BlockKeeperSet.new.insert 1 ⟨0, 7⟩).insert 2 ⟨0, 8⟩

theorem check_iff_producer_on_two_keepers :
    two_keepers.IndexesAgree ∧
      ((ProducerSelector.mk 0 0).check_whether_this_node_is_bp_based_on_bk_set_and_index_offset
          (fun _ nodes => nodes) two_keepers 8 1 = some true ↔
        ∃ producer, (ProducerSelector.mk 0 0).move_index 1 two_keepers.len = some producer ∧
          producer.get_producer_node_id (fun _ nodes => nodes) two_keepers = .ok 8) := by
  have hfirst : (BlockKeeperSet.new.insert 1 ⟨0, 7⟩ : BlockKeeperSet Nat Nat Nat).IndexesAgree :=
    BlockKeeperSet.new_indexes_agree.insert
      ⟨by simp [BlockKeeperSet.new], by simp [BlockKeeperSet.new]⟩
  have hsigner : (BlockKeeperSet.new.insert 1 ⟨0, 7⟩ : BlockKeeperSet Nat Nat Nat).by_signer.lookup
      2 = none := rfl
  have hnode : (BlockKeeperSet.new.insert 1 ⟨0, 7⟩ : BlockKeeperSet Nat Nat Nat).signer_by_node_id.lookup
      8 = none := rfl
  have hagree : two_keepers.IndexesAgree :=
    hfirst.insert ⟨fun old hold => absurd (hold.symm.trans hsigner) (Option.some_ne_none old),
      fun other hother => absurd (hother.symm.trans hnode) (Option.some_ne_none other)⟩
  exact ⟨hagree, IndexesAgree.check_iff_producer (fun _ _ => List.Perm.refl _) hagree ⟨0, 0⟩
    (by decide) 1 (by decide) 8⟩

end Agree

open BlockKeeperSet in
/-- Node `8` is staked under signer `2`, then again under signer `3` before signer `2` is
    removed; node `7` is signer `1`. -/
def restaked_bk_set : BlockKeeperSet Nat Nat Nat :=
  ((new.insert 1 ⟨0, 7⟩).insert 2 ⟨0, 8⟩).insert 3 ⟨0, 8⟩

theorem restaked_node_breaks_producer_selection :
    BlockKeeperSet.Reachable restaked_bk_set ∧ ¬ restaked_bk_set.IndexesAgree ∧
      restaked_bk_set.len = 3 ∧ restaked_bk_set.iter_node_ids = [7, 8] ∧
      ∀ shuffle : Nat → List Nat → List Nat, (∀ seed nodes, (shuffle seed nodes).Perm nodes) →
        ∀ seed, ∃ node_id,
          (ProducerSelector.mk seed 1).check_whether_this_node_is_bp_based_on_bk_set_and_index_offset
            shuffle restaked_bk_set node_id 1 = some true ∧
          ((ProducerSelector.mk seed 1).move_index 1 restaked_bk_set.len).map
              (·.get_producer_node_id shuffle restaked_bk_set) =
            some (.error "Producer selector index out of bounds") := by
  have hnodes : restaked_bk_set.iter_node_ids = [7, 8] := by decide
  have hlen : restaked_bk_set.len = 3 := by decide
  refine ⟨.insert _ _ (.insert _ _ (.insert _ _ .new)), ?_, hlen, hnodes, ?_⟩
  · intro hagree
    have hkeys := hagree.len_eq
    revert hkeys
    decide
  · intro shuffle hperm seed
    obtain ⟨a, b, hshuffle⟩ : ∃ a b, shuffle seed [7, 8] = [a, b] :=
      List.length_eq_two.mp ((hperm seed [7, 8]).length_eq)
    refine ⟨a, ?_, ?_⟩
    · simp [ProducerSelector.check_whether_this_node_is_bp_based_on_bk_set_and_index_offset,
        ProducerSelector.get_distance_from_bp, List.findIdx?_cons, hnodes, hlen, hshuffle]
    · simp [ProducerSelector.move_index, ProducerSelector.get_producer_node_id, USIZE_MAX, hnodes,
        hlen, hshuffle]

end ackinacki.types
