import Mathlib.Data.List.Sort
import AckiNacki.BlockState.State

namespace ackinacki.node.services.finalization

open ackinacki.node.block_state

/-- `BlockIndex`: the key of the candidate queue. -/
structure BlockIndex (B : Type) where
  block_seq_no : Nat
  block_identifier : B
  deriving DecidableEq, Repr

/-- `Ord for BlockIndex`: by sequence number, then by identifier. -/
def BlockIndex.lt {B : Type} [LT B] (a b : BlockIndex B) : Prop :=
  a.block_seq_no < b.block_seq_no ∨
    (a.block_seq_no = b.block_seq_no ∧ a.block_identifier < b.block_identifier)

instance {B : Type} [LT B] [DecidableEq B] [DecidableRel (α := B) (· < ·)] :
    DecidableRel (BlockIndex.lt (B := B)) :=
  fun _ _ => inferInstanceAs (Decidable (_ ∨ _))

/-- `UnfinalizedBlocksSnapshot`: the `BTreeMap` of queued candidates, as its keys in order. -/
structure UnfinalizedBlocksSnapshot (B : Type) [LT B] where
  blocks : List (BlockIndex B)
  sorted : blocks.Pairwise BlockIndex.lt

/-- How finalization fails: a panic with its text, or the walk over children running past its
    fuel. -/
inductive FinalizationError where
  | Panic (message : String)
  | OutOfFuel
  deriving DecidableEq, Repr

variable {B T : Type} [DecidableEq B]

/-- `get_block_by_id`: whether the candidate is in the queue. -/
def UnfinalizedBlocksSnapshot.get_block_by_id [LT B] (self : UnfinalizedBlocksSnapshot B)
    (identifier : B) : Option (BlockIndex B) :=
  self.blocks.find? fun index => index.block_identifier = identifier

/-- The `while let Some(next) = to_process.pop_front()` loop of `invalidate_branch`: breadth
    first over the known children, stopping at blocks invalidated already. -/
def invalidate_branch_loop (states : B → AckiNackiBlockState B T) :
    Nat → List B → Except FinalizationError (B → AckiNackiBlockState B T)
  | 0, _ => .error .OutOfFuel
  | _ + 1, [] => .ok states
  | fuel + 1, next :: to_process =>
    let next_state := states next
    if next_state.is_finalized then
      .error (.Panic "assertion failed: !next.guarded(|e| e.is_finalized())")
    else if next_state.is_invalidated then invalidate_branch_loop states fuel to_process
    else
      invalidate_branch_loop (Function.update states next next_state.set_invalidated) fuel
        (to_process ++ next_state.known_children)

def invalidate_branch (branch_root_block_state : B) (block_state_repository : B → AckiNackiBlockState B T)
    (fuel : Nat) : Except FinalizationError (B → AckiNackiBlockState B T) :=
  invalidate_branch_loop block_state_repository fuel [branch_root_block_state]

/-- The fork cleanup at the end of `try_finalize`. The sequence number it compares is read from
    the `block_state` in scope, which is the candidate's, not the queued block's. -/
def invalidate_forks (block_state : AckiNackiBlockState B T) (max_finalized_seq_no : Nat)
    (fuel : Nat) : List (BlockIndex B) → (B → AckiNackiBlockState B T) →
      Except FinalizationError (B → AckiNackiBlockState B T)
  | [], states => .ok states
  | block :: snapshot, states =>
    if !(states block.block_identifier).is_finalized then
      match block_state.block_seq_no with
      | none => invalidate_forks block_state max_finalized_seq_no fuel snapshot states
      | some block_seq_no =>
        if block_seq_no ≤ max_finalized_seq_no then
          match invalidate_branch block.block_identifier states fuel with
          | .error e => .error e
          | .ok states => invalidate_forks block_state max_finalized_seq_no fuel snapshot states
        else .ok states
    else invalidate_forks block_state max_finalized_seq_no fuel snapshot states

/-- What the finalizing loop carries: the greatest sequence number seen, the height border and
    the block states. -/
structure FinalizeAcc (B T : Type) where
  max_finalized_seq_no : Nat
  finalized_block_height_border : Option Nat
  states : B → AckiNackiBlockState B T

/-- One turn of the finalizing loop. The greatest sequence number grows before the block is
    looked up in the queue, so a ready block missing from the queue still counts. Finalizing
    the block (`on_block_finalized`) sets its flag. -/
def finalize_block [LT B] (unprocessed_blocks_cache : UnfinalizedBlocksSnapshot B)
    (acc : FinalizeAcc B T) (block_id : B) : FinalizeAcc B T :=
  let block_state := acc.states block_id
  if !block_state.is_finalized && block_state.can_be_finalized then
    match block_state.block_height, block_state.block_seq_no, block_state.attestation_target with
    | some block_height, some block_seq_no, some attestation_target =>
      let acc := { acc with
        max_finalized_seq_no := if block_seq_no > acc.max_finalized_seq_no then block_seq_no
          else acc.max_finalized_seq_no }
      match unprocessed_blocks_cache.get_block_by_id block_id with
      | none => acc
      | some _ =>
        let new_height_border :=
          block_height + attestation_target.primary.generation_deadline * 2 + 2
        { acc with
          states := Function.update acc.states block_id block_state.set_finalized
          finalized_block_height_border :=
            match acc.finalized_block_height_border with
            | some v => if v < new_height_border then some new_height_border else some v
            | none => some new_height_border }
    | _, _, _ => acc
  else acc

/-- `sort_by` on sequence numbers, which unwraps them: with two blocks or more, one without a
    sequence number panics. -/
def sort_by_seq_no (states : B → AckiNackiBlockState B T) (blocks : List B) :
    Except FinalizationError (List B) :=
  if 2 ≤ blocks.length ∧ blocks.any (fun id => (states id).block_seq_no.isNone) then
    .error (.Panic "called `Option::unwrap()` on a `None` value")
  else .ok (blocks.insertionSort fun a b =>
    (states a).block_seq_no.getD 0 ≤ (states b).block_seq_no.getD 0)

/-- `try_finalize` for the candidate `block_identifier`: its finalized height border and the
    block states after it. -/
def try_finalize [LT B] (block_state_repository : B → AckiNackiBlockState B T)
    (unprocessed_blocks_cache : UnfinalizedBlocksSnapshot B) (block_identifier : B) (fuel : Nat) :
    Except FinalizationError (Option Nat × (B → AckiNackiBlockState B T)) :=
  let block_state := block_state_repository block_identifier
  match block_state.parent_block_identifier with
  | none => .ok (none, block_state_repository)
  | some parent_id =>
    let parent_state := block_state_repository parent_id
    if block_state.has_cross_thread_ref_data_prepared ≠ some true then
      .ok (none, block_state_repository)
    else
      match parent_state.finalizes_blocks with
      | none => .ok (none, block_state_repository)
      | some blocks_finalized_by_parent =>
        match sort_by_seq_no block_state_repository blocks_finalized_by_parent with
        | .error e => .error e
        | .ok blocks_finalized_by_parent =>
          let acc := blocks_finalized_by_parent.foldl (finalize_block unprocessed_blocks_cache)
            ⟨0, none, block_state_repository⟩
          if acc.max_finalized_seq_no ≠ 0 then
            match invalidate_forks block_state acc.max_finalized_seq_no fuel
                unprocessed_blocks_cache.blocks acc.states with
            | .error e => .error e
            | .ok states => .ok (acc.finalized_block_height_border, states)
          else .ok (acc.finalized_block_height_border, acc.states)

/-- A block of thread `0` at height `seq_no` with every flag finalization asks for set. -/
def ready_block_state (block_identifier seq_no parent : Nat) : AckiNackiBlockState Nat Nat :=
  { (AckiNackiBlockState.new block_identifier : AckiNackiBlockState Nat Nat) with
    block_seq_no := some seq_no
    thread_identifier := some 0
    parent_block_identifier := some parent
    block_height := some seq_no
    signatures_verified := some true
    applied := some true
    has_parent_finalized := some true
    has_all_cross_thread_ref_data_available := some true
    has_cross_thread_ref_data_prepared := some true
    attestation_target := some ⟨⟨3, 3⟩, ⟨5, 1⟩⟩ }

/-- Two forks at sequence number `1` on block `0`: block `1`, which block `3` finalizes, and
    block `2`. Block `4` is the candidate, a child of block `3`. -/
def fork_block_states : Nat → AckiNackiBlockState Nat Nat
  | 1 => { ready_block_state 1 1 0 with known_children := [3] }
  | 2 => ready_block_state 2 1 0
  | 3 => { ready_block_state 3 2 1 with finalizes_blocks := some [1], known_children := [4] }
  | 4 => ready_block_state 4 3 3
  | n => AckiNackiBlockState.new n

def fork_queue : UnfinalizedBlocksSnapshot Nat :=
  ⟨[⟨1, 1⟩, ⟨1, 2⟩, ⟨2, 3⟩, ⟨3, 4⟩], by decide⟩

theorem try_finalize_keeps_fork_below_finalized :
    ∃ finalized_block_height_border states,
      try_finalize fork_block_states fork_queue 4 10 = .ok (finalized_block_height_border, states) ∧
        (fork_block_states 1).is_finalized = false ∧ (states 1).is_finalized = true ∧
        (states 1).block_seq_no = some 1 ∧ ⟨1, 2⟩ ∈ fork_queue.blocks ∧
        (states 2).block_seq_no = some 1 ∧ (states 2).is_finalized = false ∧
        (states 2).is_invalidated = false :=
  ⟨_, _, rfl, rfl, rfl, rfl, by decide, rfl, rfl, rfl⟩

end ackinacki.node.services.finalization
