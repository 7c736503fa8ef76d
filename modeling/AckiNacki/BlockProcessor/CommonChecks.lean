import Mathlib.Data.List.Destutter
import AckiNacki.Block.Serialize
import AckiNacki.BlockKeeper.ProducerSelector
import AckiNacki.Bitmask.Table
import AckiNacki.AuthoritySwitch.ActionLock
import AckiNacki.Attestation.Collected

namespace ackinacki.types

/-- `BlockHeight::next`: one higher in the same thread, `0` in another. -/
def BlockHeight.next {T : Type} [DecidableEq T] (self : BlockHeight T) (thread_identifier : T) :
    BlockHeight T :=
  if self.thread_identifier = thread_identifier then ⟨thread_identifier, self.height + 1⟩
  else ⟨thread_identifier, 0⟩

end ackinacki.types

namespace ackinacki.node.services.block_processor

open ackinacki.types (BlockHeight AckiNackiBlock BlockCodecs ProducerSelector)
open ackinacki.bitmask (BitmasksTable)
open ackinacki.block_keeper_system (BlockKeeperSet)
open ackinacki.types.attestation (Envelope)

/-- The fields of `CommonSection` that the block processor's checks read: the block's thread,
    height and stated producer, the threads table it carries, and the attestations it carries
    for earlier blocks. -/
structure CommonSection (T N R Sig B H : Type) where
  thread_id : T
  block_height : BlockHeight T
  producer_id : N
  threads_table : Option (BitmasksTable R T)
  block_attestations : List (Envelope Sig B H)

/-- The fields of a block state that `check_common_block_params` reads. -/
structure CommonCheckView (T I S P N : Type) where
  block_time_ms : Option Nat
  block_seq_no : Option Nat
  block_height : Option (BlockHeight T)
  bk_set : Option (BlockKeeperSet S P N)
  producer_selector_data : Option (ProducerSelector I)

variable {T N R Sig B H I S P Blk Cell : Type} [DecidableEq T] [DecidableEq R] [LinearOrder N]

/-- `check_common_block_params`; `none` is a panic, of the repeated-mask check or of the
    assertion in `check_hash`. The sequence number of the candidate is read off its tvm block
    through `seq_no`; the time to produce a block is not read. The repeated-mask check is
    `Vec::dedup`, which drops a row only when it equals the row just before it. -/
def check_common_block_params (codecs : BlockCodecs (CommonSection T N R Sig B H) Blk Cell)
    (calculate_hash : List UInt8 → Vector UInt8 32) (shuffle : I → List N → List N)
    (seq_no : Blk → Nat) (candidate_block : AckiNackiBlock (CommonSection T N R Sig B H) Blk Cell)
    (parent_block_state block_state : CommonCheckView T I S P N) :
    Option (Except String Bool) :=
  match parent_block_state.block_time_ms, parent_block_state.block_seq_no,
      parent_block_state.block_height with
  | some _, some parent_seq_no, some parent_height =>
    if seq_no candidate_block.block ≤ parent_seq_no then some (.ok false)
    else if candidate_block.common_section.block_height ≠
        parent_height.next candidate_block.common_section.thread_id then
      some (.ok false)
    else
      match block_state.bk_set, block_state.producer_selector_data with
      | some bk_set, some producer_selector =>
        match producer_selector.is_node_bp shuffle bk_set
            candidate_block.common_section.producer_id with
        | .ok true =>
          match candidate_block.common_section.threads_table with
          | some threads_table =>
            let rows := threads_table.rows.map Prod.fst
            if (rows.destutter (· ≠ ·)).length ≠ rows.length then none
            else candidate_block.check_hash codecs calculate_hash
          | none => candidate_block.check_hash codecs calculate_hash
        | _ => some (.ok false)
      | _, _ => some (.error "Failed to get selector data to perform common check")
  | _, _, _ => some (.error "Failed to get block data to perform common check")

/-- What the common checks accept. -/
structure CommonChecksHold (codecs : BlockCodecs (CommonSection T N R Sig B H) Blk Cell)
    (calculate_hash : List UInt8 → Vector UInt8 32) (shuffle : I → List N → List N)
    (seq_no : Blk → Nat) (candidate_block : AckiNackiBlock (CommonSection T N R Sig B H) Blk Cell)
    (parent_block_state block_state : CommonCheckView T I S P N) : Prop where
  parent_time : parent_block_state.block_time_ms.isSome
  seq_no_after : ∃ parent_seq_no, parent_block_state.block_seq_no = some parent_seq_no ∧
    parent_seq_no < seq_no candidate_block.block
  height_next : ∃ parent_height, parent_block_state.block_height = some parent_height ∧
    candidate_block.common_section.block_height =
      parent_height.next candidate_block.common_section.thread_id
  producer_selected : ∃ bk_set producer_selector, block_state.bk_set = some bk_set ∧
    block_state.producer_selector_data = some producer_selector ∧
    producer_selector.get_producer_node_id shuffle bk_set =
      .ok candidate_block.common_section.producer_id
  no_neighbouring_repeat : ∀ threads_table,
    candidate_block.common_section.threads_table = some threads_table →
      (threads_table.rows.map Prod.fst).IsChain (· ≠ ·)
  hash_ok : candidate_block.check_hash codecs calculate_hash = some (.ok true)

omit [DecidableEq T] [DecidableEq R] [LinearOrder N] in
/-- `Vec::dedup` keeps every row exactly when no two neighbouring rows are equal. -/
theorem length_destutter_ne_eq_iff {α : Type} [DecidableEq α] (rows : List α) :
    (rows.destutter (· ≠ ·)).length = rows.length ↔ rows.IsChain (· ≠ ·) := by
  constructor
  · intro hlength
    exact (List.destutter_eq_self_iff _ rows).mp
      ((List.destutter_sublist _ rows).eq_of_length hlength)
  · intro hchain
    rw [List.destutter_of_isChain _ rows hchain]

omit [DecidableEq T] [DecidableEq R] in
/-- The stated producer passes `is_node_bp` exactly when it is the node the selector picks. -/
theorem is_node_bp_eq_ok_true {shuffle : I → List N → List N}
    {producer_selector : ProducerSelector I}
    {bk_set : BlockKeeperSet S P N} {node_id : N} :
    producer_selector.is_node_bp shuffle bk_set node_id = .ok true ↔
      producer_selector.get_producer_node_id shuffle bk_set = .ok node_id := by
  unfold ProducerSelector.is_node_bp
  cases producer_selector.get_producer_node_id shuffle bk_set with
  | error e => simp [bind, Except.bind]
  | ok selected =>
    simp only [bind, Except.bind, pure, Except.pure, Except.ok.injEq, beq_iff_eq]

variable {codecs : BlockCodecs (CommonSection T N R Sig B H) Blk Cell}
  {calculate_hash : List UInt8 → Vector UInt8 32} {shuffle : I → List N → List N}
  {seq_no : Blk → Nat} {candidate_block : AckiNackiBlock (CommonSection T N R Sig B H) Blk Cell}
  {parent_block_state block_state : CommonCheckView T I S P N}

theorem CommonChecksHold.of_check
    (h : check_common_block_params codecs calculate_hash shuffle seq_no candidate_block
      parent_block_state block_state = some (.ok true)) :
    CommonChecksHold codecs calculate_hash shuffle seq_no candidate_block parent_block_state
      block_state := by
  unfold check_common_block_params at h
  split at h
  · rename_i parent_time parent_seq_no parent_height htime hseq hheight
    split_ifs at h with hle hnext
    · simp at h
    · simp at h
    split at h
    · rename_i bk_set producer_selector hbk hsel
      split at h
      · rename_i hbp
        refine ⟨by simp [htime], ⟨parent_seq_no, hseq, by omega⟩,
          ⟨parent_height, hheight, not_not.mp hnext⟩,
          ⟨bk_set, producer_selector, hbk, hsel, is_node_bp_eq_ok_true.mp hbp⟩, ?_, ?_⟩
        · intro threads_table htable
          rw [htable] at h
          dsimp only at h
          split_ifs at h with hrepeat
          exact (length_destutter_ne_eq_iff _).mp (not_not.mp hrepeat)
        · split at h
          · dsimp only at h
            split_ifs at h
            exact h
          · exact h
      · simp at h
    · simp at h
  · simp at h

theorem CommonChecksHold.check_eq
    (hold : CommonChecksHold codecs calculate_hash shuffle seq_no candidate_block
      parent_block_state block_state) :
    check_common_block_params codecs calculate_hash shuffle seq_no candidate_block
      parent_block_state block_state = some (.ok true) := by
  obtain ⟨htime, ⟨parent_seq_no, hseq, hlt⟩, ⟨parent_height, hheight, hnext⟩,
    ⟨bk_set, producer_selector, hbk, hsel, hselected⟩, hchain, hhash⟩ := hold
  obtain ⟨parent_time, htime⟩ := Option.isSome_iff_exists.mp htime
  unfold check_common_block_params
  rw [htime, hseq, hheight]
  simp only
  rw [if_neg (Nat.not_le.mpr hlt), if_neg (not_not.mpr hnext), hbk, hsel]
  simp only
  rw [is_node_bp_eq_ok_true.mpr hselected]
  cases htable : candidate_block.common_section.threads_table with
  | none => exact hhash
  | some threads_table =>
    dsimp only
    rw [if_neg (not_not.mpr ((length_destutter_ne_eq_iff _).mpr (hchain threads_table htable)))]
    exact hhash

/-- Codecs that write nothing, under which a block with no raw data and an all-zero hash has the
    hash of its encoding. -/
def empty_codecs : BlockCodecs (CommonSection Nat Nat Nat Nat Nat Nat) Nat Unit :=
  ⟨⟨fun _ => .ok [], fun _ => .error ""⟩, ⟨fun _ => .ok (), fun _ => .error ""⟩,
    ⟨fun _ => .ok [], fun _ => .error ""⟩⟩

/-- A candidate of thread `0` at height `1` produced by node `7`, whose threads table routes the
    mask `1/1` twice, with another row between. -/
def repeated_mask_candidate : AckiNackiBlock (CommonSection Nat Nat Nat Nat Nat Nat) Nat Unit :=
  ⟨⟨0, ⟨0, 1⟩, 7, some ⟨[(⟨1, 1⟩, 1), (⟨2, 2⟩, 2), (⟨1, 1⟩, 3), (⟨0, 0⟩, 0)]⟩, []⟩, 5, 0,
    Vector.replicate 32 0, none, none⟩

/-- The repeated mask passes the common checks. -/
example :
    check_common_block_params empty_codecs (fun _ => Vector.replicate 32 0) (fun _ nodes => nodes)
      id repeated_mask_candidate ⟨some 0, some 4, some ⟨0, 0⟩, none, none⟩
      ⟨none, none, none, some ((BlockKeeperSet.new : BlockKeeperSet Nat Nat Nat).insert 0 ⟨0, 7⟩),
        some ⟨0, 0⟩⟩ = some (.ok true) := by
  decide

end ackinacki.node.services.block_processor