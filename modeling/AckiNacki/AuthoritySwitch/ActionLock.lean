import Mathlib.Data.Finset.Basic
import Mathlib.Algebra.Group.Nat.Defs
import AckiNacki.AuthoritySwitch.RoundTime

namespace ackinacki.types

/-- `BlockHeight`: a height within a thread. -/
structure BlockHeight (T : Type) where
  thread_identifier : T
  height : Nat
  deriving DecidableEq, Repr

end ackinacki.types

namespace ackinacki.protocol.authority_switch

open ackinacki.types (BlockHeight)

/-- `action_lock::BlockRef`. -/
structure BlockRef (B : Type) where
  block_seq_no : Nat
  block_identifier : B
  deriving DecidableEq, Repr

/-- `action_lock::ActionLock`: the block a height is locked on, and the round the lock holds
    from. The producer selector and the prefinalization proof are carried as they are. -/
structure ActionLock (S P B : Type) where
  parent_block_producer_selector_data : S
  parent_block : BlockRef B
  parent_prefinalization_proof : Option P
  locked_round : Nat
  locked_block : Option (Nat × BlockRef B)
  locked_bad_block_nacks : Finset B

/-- The fields of a `BlockState` that the lock handling reads. The bk set appears only through
    its size. -/
structure BlockStateView (B H S P : Type) where
  is_finalized : Bool
  is_prefinalized : Bool
  is_invalidated : Bool
  has_all_nacks_resolved : Bool
  block_height : Option H
  block_round : Option Nat
  block_seq_no : Option Nat
  parent_block_identifier : Option B
  descendant_bk_set_len : Option Nat
  block_time_ms : Option Nat
  producer_selector_data : Option S
  prefinalization_proof : Option P

/-- What a call reads besides the node's own state: the block state repository and the round
    buckets. -/
structure Env (B H S P : Type) where
  block_state : B → BlockStateView B H S P
  round_buckets : RoundTime

/-- `ActionLockCollection`: the locks in memory and the locks in the store, by height. `none`
    is a height with no entry; `some none` an entry saying the height has no lock. -/
structure ActionLockCollection (H S P B : Type) where
  preloaded : H → Option (Option (ActionLock S P B))
  action_lock_db : H → Option (Option (ActionLock S P B))

namespace ActionLockCollection

variable {B H S P : Type} [DecidableEq H]

/-- `preload`: read the store's entry for a height that has none in memory. -/
def preload (self : ActionLockCollection H S P B) (block_height : H) :
    ActionLockCollection H S P B :=
  if (self.preloaded block_height).isSome then self
  else
    match self.action_lock_db block_height with
    | none => self
    | some lock => { self with preloaded := Function.update self.preloaded block_height (some lock) }

/-- `is_active`: a lock is no longer active once the block it locked is invalidated. -/
def is_active (self : ActionLockCollection H S P B) (block_height : H)
    (block_state : B → BlockStateView B H S P) : Bool :=
  match self.preloaded block_height with
  | some (some action_lock) =>
    match action_lock.locked_block with
    | some block_ref => !(block_state block_ref.2.block_identifier).is_invalidated
    | none => true
  | _ => true

/-- `get_mut`: preload, drop an inactive lock from memory, and hand out the lock; the caller
    writes a changed lock back with `insert`. -/
def get_mut (self : ActionLockCollection H S P B) (block_height : H)
    (block_state : B → BlockStateView B H S P) :
    Option (ActionLock S P B) × ActionLockCollection H S P B :=
  let self := self.preload block_height
  let self :=
    if !self.is_active block_height block_state then
      { self with preloaded := Function.update self.preloaded block_height (some none) }
    else self
  ((self.preloaded block_height).join, self)

/-- `get`: preload, and hand out the lock while it is active. -/
def get (self : ActionLockCollection H S P B) (block_height : H)
    (block_state : B → BlockStateView B H S P) :
    Option (ActionLock S P B) × ActionLockCollection H S P B :=
  let self := self.preload block_height
  if !self.is_active block_height block_state then (none, self)
  else ((self.preloaded block_height).join, self)

def insert (self : ActionLockCollection H S P B) (block_height : H)
    (action_lock : ActionLock S P B) : ActionLockCollection H S P B :=
  { self with preloaded := Function.update self.preloaded block_height (some (some action_lock)) }

def remove (self : ActionLockCollection H S P B) (block_height : H) :
    ActionLockCollection H S P B :=
  { self with preloaded := Function.update self.preloaded block_height (some none) }

/-- `drop_old_locks`: the memory forgets the entries of the thread's heights below
    `block_height`; the entry at `block_height` itself stays. The store is left as it is. -/
def drop_old_locks {T : Type} [DecidableEq T] (self : ActionLockCollection (BlockHeight T) S P B)
    (block_height : BlockHeight T) : ActionLockCollection (BlockHeight T) S P B :=
  { self with preloaded := fun k =>
      if k.thread_identifier ≠ block_height.thread_identifier ∨ k.height ≥ block_height.height then
        self.preloaded k
      else none }

/-- `save`: write the memory's entry for a height to the store, when there is one. -/
def save (self : ActionLockCollection H S P B) (block_height : H) :
    ActionLockCollection H S P B :=
  match self.preloaded block_height with
  | none => self
  | some data => { self with action_lock_db := Function.update self.action_lock_db block_height (some data) }

/-- The durability rule at one height: the store holds what memory holds. -/
def Durable (self : ActionLockCollection H S P B) (block_height : H) : Prop :=
  self.action_lock_db block_height = self.preloaded block_height

section Store

variable (self : ActionLockCollection H S P B) (block_height : H)

@[simp]
theorem preload_action_lock_db : (self.preload block_height).action_lock_db = self.action_lock_db := by
  unfold preload
  split
  · rfl
  · split <;> rfl

@[simp]
theorem get_mut_action_lock_db (block_state : B → BlockStateView B H S P) :
    (self.get_mut block_height block_state).2.action_lock_db = self.action_lock_db := by
  unfold get_mut
  dsimp only
  split <;> simp

@[simp]
theorem get_action_lock_db (block_state : B → BlockStateView B H S P) :
    (self.get block_height block_state).2.action_lock_db = self.action_lock_db := by
  unfold get
  dsimp only
  split <;> simp

@[simp]
theorem insert_action_lock_db (action_lock : ActionLock S P B) :
    (self.insert block_height action_lock).action_lock_db = self.action_lock_db := rfl

end Store

end ActionLockCollection

/-- `action_lock::ActionLockResult`. -/
inductive ActionLockResult where
  | OkSendAttestation
  | Rejected
  deriving DecidableEq, Repr

/-- The part of `ThreadAuthority` the lock handling reads and writes: its locks, and the bad
    block NACKs it confirmed, by parent block and height (empty when there are none). -/
structure ThreadAuthority (B H S P : Type) where
  action_lock : ActionLockCollection H S P B
  confirmed_bad_block_nacks : B → H → Finset B

namespace ThreadAuthority

variable {B H S P : Type} [DecidableEq B] [DecidableEq H]

/-- The closure of `try_lock_send_attestation_action` when the height already has a lock: the
    answer, and the changed lock when it changed. A block from a later round than the lock
    takes the lock; a block of the lock's round takes a lock that holds no block yet, and
    moves it past the local round; otherwise only the locked block is attested again. -/
def update_locked (lock : ActionLock S P B) (block_identifier : B) (block_round local_round : Nat)
    (block_ref : BlockRef B) : ActionLockResult × Option (ActionLock S P B) :=
  if block_round > lock.locked_round then
    (.OkSendAttestation,
      some { lock with locked_block := some (block_round, block_ref), locked_round := block_round })
  else if block_round = lock.locked_round ∧ lock.locked_block.isNone then
    (.OkSendAttestation,
      some { lock with
        locked_block := some (block_round, block_ref), locked_round := local_round + 1 })
  else
    match lock.locked_block with
    | none => (.Rejected, none)
    | some locked_block =>
      if locked_block.2.block_identifier = block_identifier then (.OkSendAttestation, none)
      else (.Rejected, none)

/-- `ThreadAuthority::try_lock_send_attestation_action`, at wall-clock time `now` (in ms).
    `none` is a panic: a block or parent without a sequence number (`BlockRef::try_from`), a
    bk set too large for a `u16`, or one of `calculate_round`. -/
def try_lock_send_attestation_action (env : Env B H S P) (now : Nat)
    (self : ThreadAuthority B H S P) (block_identifier : B) :
    Option (ActionLockResult × ThreadAuthority B H S P) :=
  let block_state := env.block_state block_identifier
  if block_state.is_finalized || block_state.is_prefinalized then some (.OkSendAttestation, self)
  else if block_state.is_invalidated then some (.Rejected, self)
  else if !block_state.has_all_nacks_resolved then some (.Rejected, self)
  else
    match block_state.block_height, block_state.block_round,
      block_state.parent_block_identifier with
    | some block_height, some block_round, some parent_block_id =>
      let parent_block := env.block_state parent_block_id
      match parent_block.descendant_bk_set_len, parent_block.block_time_ms with
      | some bk_set_len, some parent_block_time =>
        if parent_block_time > now then some (.Rejected, self)
        else if bk_set_len ≥ 2 ^ 16 then none
        else
          match env.round_buckets.calculate_round (now - parent_block_time) bk_set_len with
          | none => none
          | some ⟨local_round, _⟩ =>
            match block_state.block_seq_no with
            | none => none
            | some block_seq_no =>
              let block_ref : BlockRef B := ⟨block_seq_no, block_identifier⟩
              let (lock, action_lock) := self.action_lock.get_mut block_height env.block_state
              let self := { self with action_lock := action_lock }
              match lock with
              | some lock =>
                match update_locked lock block_identifier block_round local_round block_ref with
                | (result, none) => some (result, self)
                | (result, some lock) =>
                  some (result, { self with
                    action_lock := (self.action_lock.insert block_height lock).save block_height })
              | none =>
                match parent_block.producer_selector_data, parent_block.block_seq_no with
                | none, _ => some (.Rejected, self)
                | some _, none => none
                | some parent_block_producer_selector_data, some parent_seq_no =>
                  let lock : ActionLock S P B :=
                    { parent_block_producer_selector_data
                      parent_block := ⟨parent_seq_no, parent_block_id⟩
                      parent_prefinalization_proof := none
                      locked_round := local_round
                      locked_block := some (block_round, block_ref)
                      locked_bad_block_nacks :=
                        self.confirmed_bad_block_nacks parent_block_id block_height }
                  some (.OkSendAttestation, { self with
                    action_lock := (self.action_lock.insert block_height lock).save block_height })
      | _, _ => some (.Rejected, self)
    | _, _, _ => some (.Rejected, self)

/-- `ThreadAuthority::on_block_finalized`. -/
def on_block_finalized {T : Type} [DecidableEq T] (self : ThreadAuthority B (BlockHeight T) S P)
    (block_height : BlockHeight T) : ThreadAuthority B (BlockHeight T) S P :=
  { self with action_lock := self.action_lock.drop_old_locks block_height }

/-- The part of a `NextRoundSuccess` message the lock handling reads: the proposed block's
    round, parent, sequence number, identifier and the blocks its common section NACKs. -/
structure ProposedBlock (B : Type) where
  round : Nat
  parent : B
  seq_no : Nat
  identifier : B
  nacks : Finset B

/-- `network_message::NextRoundSuccess`; `proposed_block` is `none` when its envelope does not
    decode. -/
structure NextRoundSuccess (B H : Type) where
  block_height : H
  round : Nat
  proposed_block : Option (ProposedBlock B)

/-- A lock holds no block, or a block from a round before `block_round`. -/
def locked_before : Option (Nat × BlockRef B) → Nat → Bool
  | none, _ => true
  | some (locked_round, _), block_round => block_round > locked_round

/-- The update of an existing lock in `on_next_round_success`: the majority's round takes the
    lock, and its proposed block replaces an older locked block, which is then abandoned. -/
def update_on_next_round_success (e : ActionLock S P B) (round block_round : Nat)
    (leader : BlockRef B) (envelope_nacks : Finset B) :
    ActionLock S P B × Option (Nat × BlockRef B) :=
  let (e, to_invalidate) :=
    if round ≥ e.locked_round then
      let e := { e with locked_round := round }
      let (e, to_invalidate) :=
        if locked_before e.locked_block block_round then
          ({ e with locked_block := some (block_round, leader) }, e.locked_block)
        else (e, none)
      ({ e with locked_bad_block_nacks := envelope_nacks }, to_invalidate)
    else (e, none)
  if e.locked_round = round ∧ locked_before e.locked_block block_round then
    let to_invalidate :=
      match e.locked_block with
      | some prev_locked_block =>
        if prev_locked_block.2.block_identifier ≠ leader.block_identifier then
          some prev_locked_block
        else to_invalidate
      | none => to_invalidate
    ({ e with
      locked_round := round + 1
      locked_block := some (block_round, leader)
      locked_bad_block_nacks := envelope_nacks }, to_invalidate)
  else (e, to_invalidate)

/-- `ThreadAuthority::on_next_round_success`: lock the height on the block a majority asked for.
    It returns the locked block it abandons, whose branch the source then invalidates; `none` is
    the panic on a parent without a sequence number. -/
def on_next_round_success [Inhabited B] (env : Env B H S P) (self : ThreadAuthority B H S P)
    (next_round_success : NextRoundSuccess B H) :
    Option (ThreadAuthority B H S P × Option (Nat × BlockRef B)) :=
  let block_height := next_round_success.block_height
  let round := next_round_success.round
  match next_round_success.proposed_block with
  | none => some (self, none)
  | some proposed_block =>
    let block_round := proposed_block.round
    let parent_id := proposed_block.parent
    let parent_state := env.block_state parent_id
    let parent_state_prefinalization_proof : Option (Option P) :=
      match parent_state.prefinalization_proof with
      | some prefinalization_proof => some (some prefinalization_proof)
      | none => if parent_id = default then some none else none
    match parent_state_prefinalization_proof, parent_state.producer_selector_data with
    | some parent_state_prefinalization_proof, some parent_producer_selector =>
      let envelope_nacks := proposed_block.nacks
      let leader : BlockRef B := ⟨proposed_block.seq_no, proposed_block.identifier⟩
      let (lock, action_lock) := self.action_lock.get_mut block_height env.block_state
      let self := { self with action_lock := action_lock }
      match lock with
      | some e =>
        let (e, to_invalidate) :=
          update_on_next_round_success e round block_round leader envelope_nacks
        some ({ self with action_lock := self.action_lock.insert block_height e }, to_invalidate)
      | none =>
        match parent_state.block_seq_no with
        | none => none
        | some parent_seq_no =>
          let new_lock : ActionLock S P B :=
            { parent_block_producer_selector_data := parent_producer_selector
              parent_block := ⟨parent_seq_no, parent_id⟩
              parent_prefinalization_proof := parent_state_prefinalization_proof
              locked_round := round
              locked_block := some (block_round, leader)
              locked_bad_block_nacks := envelope_nacks }
          some ({ self with action_lock := self.action_lock.insert block_height new_lock }, none)
    | _, _ => some (self, none)

/-- How `start_next_round` ends, as far as the lock goes: it retries later, the local round is
    still zero, the lock's round did not move, or it builds the next-round request from the
    lock it saved. -/
inductive StartNextRoundOutcome (L : Type) where
  | RetryLater
  | RoundZero
  | RoundNotUpdated
  | Request (lock : L)

/-- `ThreadAuthority::start_next_round` up to the `save` of the lock: drop the lock of the
    height unless it was taken on the given parent, then move the lock to the local round, or
    take a new lock without a block. The request built from the saved lock afterwards is not
    modelled. `none` is a panic: a parent with no prefinalization proof or producer selector
    or sequence number, a bk set too large for a `u16`, or one of `calculate_round`. -/
def start_next_round [Inhabited B] (env : Env B H S P) (now : Nat)
    (self : ThreadAuthority B H S P) (parent_block_id : B) (block_height : H) :
    Option (StartNextRoundOutcome (ActionLock S P B) × ThreadAuthority B H S P) :=
  let (active_lock, action_lock) := self.action_lock.get block_height env.block_state
  let is_active_lock_valid :=
    match active_lock with
    | some active_lock => active_lock.parent_block.block_identifier = parent_block_id
    | none => false
  let self := { self with
    action_lock := if !is_active_lock_valid then action_lock.remove block_height else action_lock }
  let parent_block := env.block_state parent_block_id
  match parent_block.descendant_bk_set_len with
  | none => some (.RetryLater, self)
  | some bk_set_len =>
    let parent_prefinalization_proof : Option (Option P) :=
      match parent_block.prefinalization_proof with
      | some prefinalization_proof => some (some prefinalization_proof)
      | none => if parent_block_id = default then some none else none
    match parent_prefinalization_proof with
    | none => none
    | some parent_prefinalization_proof =>
      match parent_block.block_time_ms with
      | none => some (.RetryLater, self)
      | some parent_block_time =>
        if parent_block_time > now then some (.RetryLater, self)
        else if bk_set_len ≥ 2 ^ 16 then none
        else
          match env.round_buckets.calculate_round (now - parent_block_time) bk_set_len with
          | none => none
          | some ⟨local_round, _⟩ =>
            if local_round = 0 then some (.RoundZero, self)
            else
              let (existing, action_lock) := self.action_lock.get_mut block_height env.block_state
              let self := { self with action_lock := action_lock }
              match existing with
              | some existing =>
                if local_round ≥ existing.locked_round then
                  let lock := { existing with locked_round := local_round }
                  some (.Request lock, { self with
                    action_lock := (self.action_lock.insert block_height lock).save block_height })
                else some (.RoundNotUpdated, self)
              | none =>
                match parent_block.producer_selector_data, parent_block.block_seq_no with
                | some parent_block_producer_selector_data, some parent_seq_no =>
                  let new_lock : ActionLock S P B :=
                    { parent_block_producer_selector_data
                      parent_block := ⟨parent_seq_no, parent_block_id⟩
                      parent_prefinalization_proof
                      locked_round := local_round
                      locked_block := none
                      locked_bad_block_nacks :=
                        self.confirmed_bad_block_nacks parent_block_id block_height }
                  some (.Request new_lock, { self with
                    action_lock := (self.action_lock.insert block_height new_lock).save block_height })
                | _, _ => none

/-- `ThreadAuthority::on_bad_block_nack_confirmed`: start the next round at the height of the
    block found bad, from its parent. `none` is the panic on a block without parent or height. -/
def on_bad_block_nack_confirmed [Inhabited B] (env : Env B H S P) (now : Nat)
    (self : ThreadAuthority B H S P) (block : B) : Option (ThreadAuthority B H S P) :=
  match (env.block_state block).parent_block_identifier, (env.block_state block).block_height with
  | some parent_block_identifier, some block_height =>
    (start_next_round env now self parent_block_identifier block_height).map Prod.snd
  | _, _ => none

/-- The blocks of a run: block `0` is a prefinalized parent at height `6`, made at time `0` with
    a bk set of four, and every other block is a candidate of round `5` at height `7` on it. The
    round buckets are the node's default ones. -/
def candidates_env : Env Nat Nat Unit Unit where
  block_state
    | 0 => ⟨false, true, false, true, some 6, some 0, some 0, none, some 4, some 0, some (),
        some ()⟩
    | _ => ⟨false, false, false, true, some 7, some 5, some 1, some 0, none, none, none, none⟩
  round_buckets := default_round_time

/-- A node that holds no lock, in memory or in its store. -/
def no_locks : ThreadAuthority Nat Nat Unit Unit :=
  ⟨⟨fun _ => none, fun _ => none⟩, fun _ _ => ∅⟩

theorem try_lock_attests_two_blocks_of_one_round :
    ∃ after_first after_second,
      try_lock_send_attestation_action candidates_env 10 no_locks 1 =
          some (.OkSendAttestation, after_first) ∧
        try_lock_send_attestation_action candidates_env 10 after_first 2 =
          some (.OkSendAttestation, after_second) ∧
        (candidates_env.block_state 1).block_height = (candidates_env.block_state 2).block_height ∧
        (candidates_env.block_state 1).block_round = (candidates_env.block_state 2).block_round ∧
        (candidates_env.block_state 1).is_prefinalized = false ∧
        (candidates_env.block_state 2).is_prefinalized = false ∧
        (candidates_env.block_state 1).is_finalized = false ∧
        (candidates_env.block_state 2).is_finalized = false ∧
        (candidates_env.block_state 1).is_invalidated = false :=
  ⟨_, _, rfl, rfl, rfl, rfl, rfl, rfl, rfl, rfl, rfl⟩

theorem next_round_success_lock_not_saved :
    ∃ after,
      on_next_round_success candidates_env no_locks ⟨7, 6, some ⟨6, 0, 1, 3, ∅⟩⟩ =
          some (after, none) ∧
        no_locks.action_lock.preloaded 7 = none ∧
        ((after.action_lock.preloaded 7).join.map fun lock => lock.locked_round) = some 6 ∧
        after.action_lock.action_lock_db 7 = none :=
  ⟨_, rfl, rfl, rfl, rfl⟩

end ThreadAuthority

end ackinacki.protocol.authority_switch
