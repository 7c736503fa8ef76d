import AckiNacki.AuthoritySwitch.ActionLock
import AckiNacki.Attestation.Collected

namespace ackinacki.protocol.authority_switch

open ackinacki.types (BlockHeight)
open ackinacki.types.attestation (SignerIndex Occurrences Envelope AttestationData
  BLSSignatureScheme add_occurrences)
open ackinacki.block_keeper_system (BlockKeeperSet)
open ackinacki.node.block_state (AttestationTargetType)
open ThreadAuthority (ProposedBlock NextRoundSuccess)

/-- `network_message::Lock`: the lock a request carries. -/
structure Lock (B H N : Type) where
  parent_block : B
  height : H
  next_auth_node_id : N
  locked_round : Nat
  locked_block : Option B
  nack_bad_block : Finset B

/-- `network_message::NextRound`: the lock in its envelope (signature and signers with their
    counts) and the attestation of the locked block. `attestations_for_ancestors` is not read
    by the handler. -/
structure NextRound (Sig B H N Hh : Type) where
  lock_signature : Sig
  lock_signature_occurrences : Occurrences
  lock : Lock B H N
  locked_block_attestation : Option (Envelope Sig B Hh)

/-- The signers of the lock: the keys of its `HashMap` of signature occurrences. -/
def NextRound.signers {Sig B H N Hh : Type} (self : NextRound Sig B H N Hh) : List SignerIndex :=
  (self.lock_signature_occurrences.map Prod.fst).dedup

/-- `Envelope::<GoshBLS, Lock>::verify_signatures`: the check of `Envelope.verify_signatures` at
    lock data. A signer with count `0` is skipped, an unknown signer fails the check, and so
    does a lock with no signature at all. -/
def NextRound.verify_signatures {Sig K B H N Hh : Type}
    (lock_bls : BLSSignatureScheme Sig K (Lock B H N)) (self : NextRound Sig B H N Hh)
    (signers : AList (fun _ : SignerIndex => K)) : Except String Bool :=
  let counted := self.lock_signature_occurrences.filter (fun occurrence => occurrence.2 ≠ 0)
  match counted.mapM (fun occurrence => (signers.lookup occurrence.1).map (·, occurrence.2)) with
  | none => .ok false
  | some pubkeys_occurrences =>
    if pubkeys_occurrences.isEmpty then .ok false
    else lock_bls.verify self.lock_signature pubkeys_occurrences self.lock

/-- `network_message::NextRoundReject`. -/
structure NextRoundReject (T B P : Type) where
  thread_identifier : T
  prefinalized_block : ProposedBlock B
  proof_of_prefinalization : P

/-- The `NextRoundSuccess` the handler seals and broadcasts; `requests_aggregated` is always
    empty. -/
structure OutgoingNextRoundSuccess (B H N Sig Hh : Type) where
  node_identifier : N
  round : Nat
  block_height : H
  proposed_block : ProposedBlock B
  attestations_aggregated : Option (Envelope Sig B Hh)

/-- What a node that receives the broadcast reads of it (`on_next_round_success`). -/
def OutgoingNextRoundSuccess.received {B H N Sig Hh : Type}
    (self : OutgoingNextRoundSuccess B H N Sig Hh) : NextRoundSuccess B H :=
  ⟨self.block_height, self.round, some self.proposed_block⟩

/-- `StartBlockProducerThreadInitialParameters`; `proof_of_valid_start` is always empty. The
    NACKed blocks come from a `HashSet`, in no order. -/
structure StartBlockProducerThreadInitialParameters (T B : Type) where
  thread_identifier : T
  parent_block_identifier : B
  parent_block_seq_no : Nat
  round : Nat
  nacked_blocks_bad_block : Multiset (ProposedBlock B)

/-- `OnNextRoundIncomingRequestResult`. -/
inductive OnNextRoundIncomingRequestResult (N E R : Type) where
  | DoNothing
  | StartingBlockProducer
  | Broadcast (envelope : E)
  | Reject (reject : R) (node_id : N)
  | RejectTooOldRequest (node_id : N)

/-- The node sent a block to the network, or started a block producer: what a round closed by
    the node can lead to, and what it must do at most once a round. -/
def OnNextRoundIncomingRequestResult.acts {N E R : Type} :
    OnNextRoundIncomingRequestResult N E R → Bool
  | .StartingBlockProducer => true
  | .Broadcast _ => true
  | _ => false

/-- The key a request is collected under: the sibling key (parent block and height) and the
    round of its lock. -/
def NextRound.round_key {Sig B H N Hh : Type} (self : NextRound Sig B H N Hh) : (B × H) × Nat :=
  ((self.lock.parent_block, self.lock.height), self.lock.locked_round)

/-- What `on_next_round_incoming_request` reads besides the node's state. `candidate_block` is
    the cache of unprocessed candidates and `finalized_block` the block repository (`none` is an
    error); `descendant_bk_set`, `known_children` and `envelope_hash` are read off the block
    state repository. `lock_bls` checks the signature of a lock, `sealed` is the node signing a
    message with its key in a bk set (`none` when it has no key there), `round_buckets` the
    node's `RoundTime`, and `bp_production_count` the number of threads the node produces
    blocks for. -/
structure RoundEnv (B T S N K Sig Hh P E : Type) where
  block_state : B → BlockStateView B (BlockHeight T) S P
  descendant_bk_set : B → Option (BlockKeeperSet SignerIndex K N)
  known_children : B → T → Option (List B)
  envelope_hash : B → Option Hh
  candidate_block : B → Option (ProposedBlock B)
  finalized_block : B → Option (Option (ProposedBlock B))
  lock_bls : BLSSignatureScheme Sig K (Lock B (BlockHeight T) N)
  bls : BLSSignatureScheme Sig K (AttestationData B Hh)
  sealed : BlockKeeperSet SignerIndex K N → OutgoingNextRoundSuccess B (BlockHeight T) N Sig Hh →
    Option E
  node_identifier : N
  bp_production_count : Int
  now : Nat
  round_buckets : RoundTime

/-- `ThreadAuthority` with the state of the round collection: the requests collected by sibling
    key (parent block and height) and round, the last round closed for each key (kept in memory
    only, which the source marks as a liability on restart), and the channel to the block
    producer, as the commands sent on it (`none` before `register_block_producer`). -/
structure RoundAuthority (B T S N Sig Hh P : Type) where
  authority : ThreadAuthority B (BlockHeight T) S P
  collecting_next_round : (B × BlockHeight T) × Nat → List (NextRound Sig B (BlockHeight T) N Hh)
  closed_round : B × BlockHeight T → Option Nat
  block_producers : Option (List (StartBlockProducerThreadInitialParameters T B))

section Handler

variable {B T S N K Sig Hh P E : Type} [DecidableEq B] [DecidableEq T] [DecidableEq N]
  [DecidableEq Hh]

/-- `usize::div_ceil`; `none` is the panic on a zero divisor. -/
def div_ceil (a b : Nat) : Option Nat := if b = 0 then none else some ((a + b - 1) / b)

/-- `usize as i32`: the low 32 bits, as a two's complement number. -/
def as_i32 (x : Nat) : Int :=
  if x % 2 ^ 32 < 2 ^ 31 then (x % 2 ^ 32 : Nat) else (x % 2 ^ 32 : Nat) - 2 ^ 32

/-- `ThreadAuthority::get_block`: the candidate cache, then the finalized blocks; the outer
    `none` is the panic on a repository error. -/
def get_block (env : RoundEnv B T S N K Sig Hh P E) (block_identifier : B) :
    Option (Option (ProposedBlock B)) :=
  match env.candidate_block block_identifier with
  | some block => some (some block)
  | none => env.finalized_block block_identifier

/-- The loop of `find_next_prefinalized` over the children: a finalized child is returned at
    once, and a prefinalized child that is not invalidated is the candidate; a second such
    child fails the `assert!` (`none`). -/
def find_next_prefinalized_loop (env : RoundEnv B T S N K Sig Hh P E) :
    List B → Option B → Option (Option B)
  | [], candidate => some candidate
  | child_id :: children, candidate =>
    let child := env.block_state child_id
    if child.is_finalized then some (some child_id)
    else if child.is_prefinalized && !child.is_invalidated then
      if candidate.isSome then none
      else find_next_prefinalized_loop env children (some child_id)
    else find_next_prefinalized_loop env children candidate

/-- `find_next_prefinalized`: the finalized or prefinalized child of a block in a thread. The
    children are a `HashSet`, read in the order the environment lists them. -/
def find_next_prefinalized (env : RoundEnv B T S N K Sig Hh P E) (block_identifier : B)
    (thread_identifier : T) : Option (Option B) :=
  match env.known_children block_identifier thread_identifier with
  | none => some none
  | some children => find_next_prefinalized_loop env children none

/-- One turn of the voters loop: a request whose signers are all counted already adds nothing;
    otherwise its signers join the voters and its locked block attestation, if any, is kept. -/
def collect_vote (acc : Finset SignerIndex × List (Envelope Sig B Hh))
    (e : NextRound Sig B (BlockHeight T) N Hh) : Finset SignerIndex × List (Envelope Sig B Hh) :=
  let signatures := e.signers.toFinset
  if signatures ⊆ acc.1 then acc
  else
    (acc.1 ∪ signatures,
      match e.locked_block_attestation with
      | some attestation => acc.2 ++ [attestation]
      | none => acc.2)

/-- The voters loop over the collected requests. -/
def collect_votes (collected_requests : List (NextRound Sig B (BlockHeight T) N Hh)) :
    Finset SignerIndex × List (Envelope Sig B Hh) :=
  collected_requests.foldl collect_vote (∅, [])

/-- One turn of the loop over the requests' locked blocks: a known block of a higher round than
    the best so far replaces it (the first of the highest stays), an unknown block is skipped,
    and a request that holds no block is counted. `none` is the panic on a repository error. -/
def scan_locked_block (env : RoundEnv B T S N K Sig Hh P E) (acc : Option (ProposedBlock B) × Nat)
    (e : NextRound Sig B (BlockHeight T) N Hh) : Option (Option (ProposedBlock B) × Nat) :=
  match e.lock.locked_block with
  | some block_id =>
    match get_block env block_id with
    | none => none
    | some none => some acc
    | some (some block) =>
      match acc.1 with
      | some current => if block.round > current.round then some (some block, acc.2) else some acc
      | none => some (some block, acc.2)
  | none => some (acc.1, acc.2 + 1)

/-- The loop over the requests' locked blocks: the known locked block of the highest round, and
    the number of requests that hold no block. -/
def scan_locked_blocks (env : RoundEnv B T S N K Sig Hh P E)
    (collected_requests : List (NextRound Sig B (BlockHeight T) N Hh)) :
    Option (Option (ProposedBlock B) × Nat) :=
  collected_requests.foldlM (scan_locked_block env) (none, 0)

/-- The aggregation of the collected attestations of the resent block: counts are added (the
    `u16` overflow panics) and signatures merged (`unwrap`); `none` is a panic. -/
def aggregate_attestations (bls : BLSSignatureScheme Sig K (AttestationData B Hh))
    (attestation_data : AttestationData B Hh) (collected_attestations : List (Envelope Sig B Hh)) :
    Option (Option (Envelope Sig B Hh)) :=
  collected_attestations.foldlM
    (fun (aggregated_attestations : Option (Envelope Sig B Hh)) attestation =>
      if attestation.data ≠ attestation_data then some aggregated_attestations
      else
        match aggregated_attestations with
        | some aggregated =>
          match add_occurrences aggregated.signature_occurrences attestation.signature_occurrences with
          | none => none
          | some merged_signatures_occurences =>
            match bls.merge aggregated.aggregated_signature attestation.aggregated_signature with
            | .error _ => none
            | .ok merged_aggregated_signature =>
              some (some (Envelope.create merged_aggregated_signature merged_signatures_occurences
                attestation_data))
        | none => some (some attestation))
    none

/-- One NACKed block handed to the block producer: from the candidate cache, else from the
    finalized blocks; a block the node cannot load panics (`none`). -/
def load_nacked_block (env : RoundEnv B T S N K Sig Hh P E) (block_identifier : B) :
    Option (ProposedBlock B) :=
  match env.candidate_block block_identifier with
  | some block => some block
  | none => (env.finalized_block block_identifier).join

/-- The NACKed blocks handed to the block producer, collected from a `HashSet`. -/
def load_nacked_blocks (env : RoundEnv B T S N K Sig Hh P E) (nacked_blocks_bad_block : Finset B) :
    Option (Multiset (ProposedBlock B)) :=
  if h : ∀ id ∈ nacked_blocks_bad_block, (load_nacked_block env id).isSome then
    some (nacked_blocks_bad_block.val.pmap (fun id hid => (load_nacked_block env id).get hid) h)
  else none

/-- The answer to a request when the parent already has a finalized or prefinalized child: the
    child and its proof of prefinalization, or, when the node cannot load it, too old a request
    for a finalized child. `none` is a panic: a repository error, or a child without a proof. -/
def reject_request (env : RoundEnv B T S N K Sig Hh P E) (thread_identifier : T) (node_id : N)
    (prefinalized : B) : Option (OnNextRoundIncomingRequestResult N E (NextRoundReject T B P)) :=
  let prefinalized_state := env.block_state prefinalized
  match get_block env prefinalized with
  | none => none
  | some none =>
    some (if prefinalized_state.is_finalized then .RejectTooOldRequest node_id else .DoNothing)
  | some (some prefinalized_block) =>
    match prefinalized_state.prefinalization_proof with
    | none => none
    | some proof_of_prefinalization =>
      some (.Reject ⟨thread_identifier, prefinalized_block, proof_of_prefinalization⟩ node_id)

/-- The closed round's answer when a request holds a block the node knows: the block of the
    highest round is resent, with the attestations of it that came with the requests, unless
    it is invalidated or has NACKs unresolved. `none` is a panic: a block without an envelope
    hash, or a failed aggregation. -/
def resend_locked_block (env : RoundEnv B T S N K Sig Hh P E) (bk_set : BlockKeeperSet SignerIndex K N)
    (block_height : BlockHeight T) (round : Nat) (collected_attestations : List (Envelope Sig B Hh))
    (block : ProposedBlock B) : Option (OnNextRoundIncomingRequestResult N E (NextRoundReject T B P)) :=
  let max_locked_block_status := env.block_state block.identifier
  if !max_locked_block_status.has_all_nacks_resolved || max_locked_block_status.is_invalidated then
    some .DoNothing
  else
    match env.envelope_hash block.identifier with
    | none => none
    | some envelope_hash =>
      let attestation_data : AttestationData B Hh :=
        { parent_block_id := block.parent
          block_id := block.identifier
          block_seq_no := block.seq_no
          envelope_hash
          target_type := .Primary }
      match aggregate_attestations env.bls attestation_data collected_attestations with
      | none => none
      | some aggregated_attestations =>
        match env.sealed bk_set
            { node_identifier := env.node_identifier, round, block_height
              proposed_block := block, attestations_aggregated := aggregated_attestations } with
        | none => some .DoNothing
        | some envelope => some (.Broadcast envelope)

/-- The closed round's answer when no request holds a block the node knows: start producing on
    the parent, if the round is not behind the local one and `round_remaining_time` is at least
    330 ms. That time is the remainder of `calculate_round`, the time since the local round
    began, so the check holds off a request early in a round rather than late in it, as its
    message says. `none` is a panic: a bk set too large for a `u16`, one of `calculate_round`,
    no block producer registered, a parent without a sequence number, or a NACKed block the node
    cannot load. The channel is never closed. -/
def start_block_producer (env : RoundEnv B T S N K Sig Hh P E)
    (self : RoundAuthority B T S N Sig Hh P) (parent_state : BlockStateView B (BlockHeight T) S P)
    (parent_block : B) (bk_set : BlockKeeperSet SignerIndex K N) (block_height : BlockHeight T)
    (round : Nat) (nacked_blocks_bad_block : Finset B) :
    Option (OnNextRoundIncomingRequestResult N E (NextRoundReject T B P) ×
      RoundAuthority B T S N Sig Hh P) :=
  match parent_state.block_time_ms with
  | none => some (.DoNothing, self)
  | some parent_block_time =>
    if parent_block_time > env.now then some (.DoNothing, self)
    else if bk_set.len ≥ 2 ^ 16 then none
    else
      match env.round_buckets.calculate_round (env.now - parent_block_time) bk_set.len with
      | none => none
      | some ⟨local_round, round_remaining_time⟩ =>
        if local_round > round ∨ round_remaining_time < 330 then some (.DoNothing, self)
        else
          match self.block_producers, parent_state.block_seq_no,
            load_nacked_blocks env nacked_blocks_bad_block with
          | some commands, some parent_block_seq_no, some nacked_blocks =>
            some (.StartingBlockProducer, { self with
              block_producers := some (commands ++
                [{ thread_identifier := block_height.thread_identifier
                   parent_block_identifier := parent_block
                   parent_block_seq_no, round
                   nacked_blocks_bad_block := nacked_blocks }]) })
          | _, _, _ => none

/-- The requests of a round, collected with this one: once their signers make a majority of the
    bk set, and a majority holds no block or one holds a block the node knows, the node closes
    the round, unless it already produces for as many threads as the round's generation. -/
def close_round (env : RoundEnv B T S N K Sig Hh P E) (self : RoundAuthority B T S N Sig Hh P)
    (parent_state : BlockStateView B (BlockHeight T) S P) (bk_set : BlockKeeperSet SignerIndex K N)
    (round_key : (B × BlockHeight T) × Nat) (nacked_blocks_bad_block : Finset B)
    (collected_requests : List (NextRound Sig B (BlockHeight T) N Hh)) :
    Option (OnNextRoundIncomingRequestResult N E (NextRoundReject T B P) ×
      RoundAuthority B T S N Sig Hh P) :=
  let round := round_key.2
  let (collected_voters, collected_attestations) := collect_votes collected_requests
  match div_ceil (bk_set.len + 1) 2 with
  | none => none
  | some votes_target =>
    if collected_voters.card < votes_target then some (.DoNothing, self)
    else
      match scan_locked_blocks env collected_requests with
      | none => none
      | some (max_locked_block, locked_none_count) =>
        if max_locked_block.isNone ∧ locked_none_count < votes_target then some (.DoNothing, self)
        else
          match div_ceil round bk_set.len with
          | none => none
          | some current_round_generation =>
            if as_i32 current_round_generation ≤ env.bp_production_count then some (.DoNothing, self)
            else
              let self := { self with
                closed_round := Function.update self.closed_round round_key.1 (some round) }
              match max_locked_block with
              | some block =>
                (resend_locked_block env bk_set round_key.1.2 round collected_attestations block).map
                  (·, self)
              | none =>
                start_block_producer env self parent_state round_key.1.1 bk_set round_key.1.2 round
                  nacked_blocks_bad_block

/-- `ThreadAuthority::on_next_round_incoming_request`. A request signed by one keeper of the
    parent's bk set, on a parent prefinalized and sound, is answered with the parent's next
    prefinalized block when there is one; otherwise, if it is for this node and its round is
    neither closed nor behind the node's own lock, it is collected and the round closed once
    enough requests agree. `none` is a panic. -/
def on_next_round_incoming_request (env : RoundEnv B T S N K Sig Hh P E)
    (self : RoundAuthority B T S N Sig Hh P) (next_round_message : NextRound Sig B (BlockHeight T) N Hh) :
    Option (OnNextRoundIncomingRequestResult N E (NextRoundReject T B P) ×
      RoundAuthority B T S N Sig Hh P) :=
  let lock := next_round_message.lock
  match next_round_message.signers with
  | [signer_index] =>
    let block_height := lock.height
    let parent_state := env.block_state lock.parent_block
    if !parent_state.is_prefinalized && !parent_state.is_finalized then some (.DoNothing, self)
    else if parent_state.is_invalidated then some (.DoNothing, self)
    else if !parent_state.has_all_nacks_resolved then some (.DoNothing, self)
    else
      match env.descendant_bk_set lock.parent_block with
      | none => some (.DoNothing, self)
      | some bk_set =>
        match next_round_message.verify_signatures env.lock_bls bk_set.signer_to_pubkey with
        | .ok true =>
          match bk_set.get_by_signer signer_index with
          | none => some (.DoNothing, self)
          | some data =>
            match find_next_prefinalized env lock.parent_block block_height.thread_identifier with
            | none => none
            | some (some prefinalized) =>
              (reject_request env block_height.thread_identifier data.node_id prefinalized).map
                (·, self)
            | some none =>
              let (current_lock, action_lock) :=
                self.authority.action_lock.get block_height env.block_state
              let self := { self with authority := { self.authority with action_lock } }
              let round := lock.locked_round
              let round_key := ((lock.parent_block, block_height), round)
              if current_lock.any (fun current_lock => current_lock.locked_round > round) then
                some (.DoNothing, self)
              else if (self.closed_round round_key.1).any (fun last_closed_round =>
                  last_closed_round ≥ round) then
                some (.DoNothing, self)
              else if lock.next_auth_node_id ≠ env.node_identifier then some (.DoNothing, self)
              else
                let collected_requests := self.collecting_next_round round_key ++ [next_round_message]
                let self := { self with
                  collecting_next_round :=
                    Function.update self.collecting_next_round round_key collected_requests }
                let nacked_blocks_bad_block :=
                  self.authority.confirmed_bad_block_nacks lock.parent_block block_height
                close_round env self parent_state bk_set round_key nacked_blocks_bad_block
                  (collected_requests.filter fun e => e.lock.nack_bad_block = nacked_blocks_bad_block)
        | _ => some (.DoNothing, self)
  | _ => some (.DoNothing, self)

end Handler

section Spec

variable {B T S N K Sig Hh P E : Type} {env : RoundEnv B T S N K Sig Hh P E}
  {self self' : RoundAuthority B T S N Sig Hh P}
  {result : OnNextRoundIncomingRequestResult N E (NextRoundReject T B P)}

/-- The state a call leaves when it does not collect the request: the round collection, the
    closed rounds, the block producer channel, the NACKs and the stored locks stay. -/
structure RoundAuthority.Frame (self self' : RoundAuthority B T S N Sig Hh P) : Prop where
  collecting_next_round : self'.collecting_next_round = self.collecting_next_round
  closed_round : self'.closed_round = self.closed_round
  block_producers : self'.block_producers = self.block_producers
  confirmed_bad_block_nacks :
    self'.authority.confirmed_bad_block_nacks = self.authority.confirmed_bad_block_nacks
  action_lock_db : self'.authority.action_lock.action_lock_db = self.authority.action_lock.action_lock_db

theorem RoundAuthority.Frame.refl (self : RoundAuthority B T S N Sig Hh P) : self.Frame self :=
  ⟨rfl, rfl, rfl, rfl, rfl⟩

/-- `start_block_producer` writes the block producer channel only, and answers nothing or the
    start. -/
theorem start_block_producer_eq_some {parent_state : BlockStateView B (BlockHeight T) S P}
    {parent_block : B} {bk_set : BlockKeeperSet SignerIndex K N} {block_height : BlockHeight T}
    {round : Nat} {nacked_blocks_bad_block : Finset B}
    (h : start_block_producer env self parent_state parent_block bk_set block_height round
      nacked_blocks_bad_block = some (result, self')) :
    ∃ block_producers, self' = { self with block_producers } ∧
      (result = .DoNothing ∨ result = .StartingBlockProducer) := by
  unfold start_block_producer at h
  repeat' split at h
  all_goals first
    | (simp only [Option.some.injEq, Prod.mk.injEq] at h; exact ⟨_, h.2.symm, by simp [← h.1]⟩)
    | simp at h

/-- A started block producer is sent one command: to produce on the given parent, in the given
    round, with the NACKed blocks loaded. -/
theorem start_block_producer_starts {parent_state : BlockStateView B (BlockHeight T) S P}
    {parent_block : B} {bk_set : BlockKeeperSet SignerIndex K N} {block_height : BlockHeight T}
    {round : Nat} {nacked_blocks_bad_block : Finset B}
    (h : start_block_producer env self parent_state parent_block bk_set block_height round
      nacked_blocks_bad_block = some (.StartingBlockProducer, self')) :
    ∃ commands parent_block_seq_no nacked_blocks,
      self.block_producers = some commands ∧
      parent_state.block_seq_no = some parent_block_seq_no ∧
      load_nacked_blocks env nacked_blocks_bad_block = some nacked_blocks ∧
      self' = { self with block_producers := some (commands ++
        [⟨block_height.thread_identifier, parent_block, parent_block_seq_no, round, nacked_blocks⟩]) } := by
  unfold start_block_producer at h
  split at h
  · simp at h
  split_ifs at h
  · simp at h
  split at h
  · cases h
  split at h
  · simp at h
  split at h
  · rename_i commands parent_block_seq_no nacked_blocks hcommands hseq_no hnacked
    simp only [Option.some.injEq, Prod.mk.injEq, true_and] at h
    exact ⟨commands, parent_block_seq_no, nacked_blocks, hcommands, hseq_no, hnacked, h.symm⟩
  · simp at h

/-- A `DoNothing` on the state as it was. -/
theorem close_round_quiet {Q : (B × BlockHeight T → Option Nat) → Prop} {closed : B × BlockHeight T → Option Nat}
    (h : some (OnNextRoundIncomingRequestResult.DoNothing, self) = some (result, self')) :
    ∃ closed_round block_producers, self' = { self with closed_round, block_producers } ∧
      (closed_round = self.closed_round ∨ closed_round = closed) ∧ (result.acts = true → Q closed_round) := by
  simp only [Option.some.injEq, Prod.mk.injEq] at h
  obtain ⟨rfl, rfl⟩ := h
  exact ⟨_, _, rfl, .inl rfl, by simp [OnNextRoundIncomingRequestResult.acts]⟩

/-- A `DoNothing` on the state as it was, or on the state with a lock preloaded, leaves the
    frame. -/
theorem frame_of_do_nothing {self₀ : RoundAuthority B T S N Sig Hh P} (hframe : self.Frame self₀)
    (h : some (OnNextRoundIncomingRequestResult.DoNothing, self₀) = some (result, self')) :
    self.Frame self' ∧ result.acts = false := by
  simp only [Option.some.injEq, Prod.mk.injEq] at h
  obtain ⟨rfl, rfl⟩ := h
  exact ⟨hframe, rfl⟩

/-- A request answered with the parent's next prefinalized block never makes the node act. -/
theorem reject_request_acts {thread_identifier : T} {node_id : N} {prefinalized : B}
    (h : reject_request env thread_identifier node_id prefinalized = some result) :
    result.acts = false := by
  unfold reject_request at h
  split at h
  · simp at h
  · simp only [Option.some.injEq] at h
    subst h
    split <;> rfl
  · dsimp only at h
    split at h
    · simp at h
    · simp only [Option.some.injEq] at h
      subst h
      rfl

/-- A request locks a block the node can load. -/
def KnownLocked (env : RoundEnv B T S N K Sig Hh P E) (e : NextRound Sig B (BlockHeight T) N Hh)
    (block : ProposedBlock B) : Prop :=
  ∃ block_id, e.lock.locked_block = some block_id ∧ get_block env block_id = some (some block)

theorem KnownLocked.eq {e : NextRound Sig B (BlockHeight T) N Hh} {block block' : ProposedBlock B}
    {block_id : B} (hknown : KnownLocked env e block') (hlocked : e.lock.locked_block = some block_id)
    (hget : get_block env block_id = some (some block)) : block' = block := by
  obtain ⟨block_id', hlocked', hget'⟩ := hknown
  rw [hlocked, Option.some.injEq] at hlocked'
  subst hlocked'
  rw [hget, Option.some.injEq, Option.some.injEq] at hget'
  exact hget'.symm

/-- One turn of the locked blocks loop: it counts a request that holds no block, and its best
    block so far is at least as high as the one before and as the request's known block, and is
    one of them. -/
theorem scan_locked_block_spec {acc acc' : Option (ProposedBlock B) × Nat}
    {e : NextRound Sig B (BlockHeight T) N Hh} (h : scan_locked_block env acc e = some acc') :
    acc'.2 = acc.2 + (if e.lock.locked_block.isNone then 1 else 0) ∧
    (∀ block ∈ acc.1, ∃ best ∈ acc'.1, block.round ≤ best.round) ∧
    (∀ block, KnownLocked env e block → ∃ best ∈ acc'.1, block.round ≤ best.round) ∧
    (∀ best ∈ acc'.1, best ∈ acc.1 ∨ KnownLocked env e best) := by
  unfold scan_locked_block at h
  split at h
  · rename_i block_id hlocked
    split at h
    · simp at h
    · rename_i hunknown
      simp only [Option.some.injEq] at h
      subst h
      refine ⟨by simp [hlocked], fun block hblock => ⟨block, hblock, le_rfl⟩, ?_,
        fun best hbest => .inl hbest⟩
      rintro block ⟨block_id', hlocked', hget⟩
      rw [hlocked, Option.some.injEq] at hlocked'
      subst hlocked'
      rw [hunknown] at hget
      simp at hget
    · rename_i block hknown
      split at h
      · rename_i current hcurrent
        split_ifs at h with hhigher
        · simp only [Option.some.injEq] at h
          subst h
          refine ⟨by simp [hlocked], fun block' hblock' => ?_, fun block' hblock' => ?_,
            fun best hbest => .inr ?_⟩
          · rw [hcurrent, Option.mem_def, Option.some.injEq] at hblock'
            subst hblock'
            exact ⟨block, rfl, hhigher.le⟩
          · rw [hblock'.eq hlocked hknown]
            exact ⟨block, rfl, le_rfl⟩
          · rw [Option.mem_def, Option.some.injEq] at hbest
            subst hbest
            exact ⟨block_id, hlocked, hknown⟩
        · simp only [Option.some.injEq] at h
          subst h
          refine ⟨by simp [hlocked], fun block' hblock' => ⟨block', hblock', le_rfl⟩,
            fun block' hblock' => ?_, fun best hbest => .inl hbest⟩
          rw [hblock'.eq hlocked hknown]
          exact ⟨current, hcurrent, Nat.le_of_not_lt hhigher⟩
      · rename_i hnone
        simp only [Option.some.injEq] at h
        subst h
        refine ⟨by simp [hlocked], fun block' hblock' => ?_, fun block' hblock' => ?_,
          fun best hbest => .inr ?_⟩
        · rw [hnone] at hblock'
          simp at hblock'
        · rw [hblock'.eq hlocked hknown]
          exact ⟨block, rfl, le_rfl⟩
        · rw [Option.mem_def, Option.some.injEq] at hbest
          subst hbest
          exact ⟨block_id, hlocked, hknown⟩
  · rename_i hlocked
    simp only [Option.some.injEq] at h
    subst h
    refine ⟨by simp [hlocked], fun block hblock => ⟨block, hblock, le_rfl⟩, ?_,
      fun best hbest => .inl hbest⟩
    rintro block ⟨block_id, hlocked', -⟩
    rw [hlocked] at hlocked'
    cases hlocked'

/-- The locked blocks loop from any start: it counts the requests that hold no block, and ends
    on a block at least as high as its start and as every known locked block, which is its start
    or one of them. -/
theorem scan_locked_blocks_loop :
    ∀ (requests : List (NextRound Sig B (BlockHeight T) N Hh)) (acc acc' : Option (ProposedBlock B) × Nat),
      requests.foldlM (scan_locked_block env) acc = some acc' →
      acc'.2 = acc.2 + (requests.filter fun e => e.lock.locked_block.isNone).length ∧
      (∀ block ∈ acc.1, ∃ best ∈ acc'.1, block.round ≤ best.round) ∧
      (∀ e ∈ requests, ∀ block, KnownLocked env e block → ∃ best ∈ acc'.1, block.round ≤ best.round) ∧
      (∀ best ∈ acc'.1, best ∈ acc.1 ∨ ∃ e ∈ requests, KnownLocked env e best) := by
  intro requests
  induction requests with
  | nil =>
    intro acc acc' h
    obtain rfl := Iterate.foldlM_option_nil.mp h
    refine ⟨by simp, fun block hblock => ⟨block, hblock, le_rfl⟩, by simp, fun best hbest => .inl hbest⟩
  | cons e requests ih =>
    intro acc acc' h
    obtain ⟨t, hfirst, hrest⟩ := Iterate.foldlM_option_cons.mp h
    obtain ⟨hcount₁, hup₁, hknown₁, hfrom₁⟩ := scan_locked_block_spec hfirst
    obtain ⟨hcount₂, hup₂, hknown₂, hfrom₂⟩ := ih t acc' hrest
    have hup : ∀ block ∈ t.1, ∃ best ∈ acc'.1, block.round ≤ best.round := hup₂
    refine ⟨?_, fun block hblock => ?_, fun e' he' block hblock => ?_, fun best hbest => ?_⟩
    · rw [hcount₂, hcount₁, List.filter_cons]
      by_cases hnone : e.lock.locked_block.isNone = true
      · rw [if_pos hnone, if_pos hnone, List.length_cons]
        omega
      · rw [if_neg hnone, if_neg hnone]
        omega
    · obtain ⟨middle, hmiddle, hle⟩ := hup₁ block hblock
      obtain ⟨best, hbest, hle'⟩ := hup middle hmiddle
      exact ⟨best, hbest, hle.trans hle'⟩
    · rcases List.mem_cons.mp he' with rfl | he'
      · obtain ⟨middle, hmiddle, hle⟩ := hknown₁ block hblock
        obtain ⟨best, hbest, hle'⟩ := hup middle hmiddle
        exact ⟨best, hbest, hle.trans hle'⟩
      · exact hknown₂ e' he' block hblock
    · rcases hfrom₂ best hbest with hbest | ⟨e', he', hknown⟩
      · rcases hfrom₁ best hbest with hbest | hknown
        · exact .inl hbest
        · exact .inr ⟨e, List.mem_cons_self, hknown⟩
      · exact .inr ⟨e', List.mem_cons_of_mem e he', hknown⟩

/-- The locked blocks loop counts the requests that hold no block, and finds the highest of the
    blocks the requests lock and the node can load, if there is one. -/
theorem scan_locked_blocks_spec {collected_requests : List (NextRound Sig B (BlockHeight T) N Hh)}
    {max_locked_block : Option (ProposedBlock B)} {locked_none_count : Nat}
    (h : scan_locked_blocks env collected_requests = some (max_locked_block, locked_none_count)) :
    locked_none_count = (collected_requests.filter fun e => e.lock.locked_block.isNone).length ∧
    (∀ e ∈ collected_requests, ∀ block, KnownLocked env e block →
      ∃ best ∈ max_locked_block, block.round ≤ best.round) ∧
    (∀ best ∈ max_locked_block, ∃ e ∈ collected_requests, KnownLocked env e best) := by
  obtain ⟨hcount, -, hknown, hfrom⟩ := scan_locked_blocks_loop collected_requests (none, 0) _ h
  refine ⟨by simpa using hcount, hknown, fun best hbest => ?_⟩
  rcases hfrom best hbest with hnone | hfound
  · simp at hnone
  · exact hfound

/-- One turn of the voters loop counts the request's signers. -/
theorem collect_vote_voters (acc : Finset SignerIndex × List (Envelope Sig B Hh))
    (e : NextRound Sig B (BlockHeight T) N Hh) :
    (collect_vote acc e).1 = acc.1 ∪ e.signers.toFinset := by
  unfold collect_vote
  dsimp only
  split_ifs with hsubset
  · exact (Finset.union_eq_left.mpr hsubset).symm
  · rfl

/-- The voters the loop counts are the signers of all the requests: a request whose signers are
    all counted already would add none. -/
theorem collect_votes_voters (collected_requests : List (NextRound Sig B (BlockHeight T) N Hh)) :
    (collect_votes collected_requests).1 = (collected_requests.flatMap NextRound.signers).toFinset := by
  have hloop : ∀ (requests : List (NextRound Sig B (BlockHeight T) N Hh))
      (acc : Finset SignerIndex × List (Envelope Sig B Hh)),
      (requests.foldl collect_vote acc).1 = acc.1 ∪ (requests.flatMap NextRound.signers).toFinset := by
    intro requests
    induction requests with
    | nil => simp
    | cons e requests ih =>
      intro acc
      rw [List.foldl_cons, ih, collect_vote_voters, List.flatMap_cons, List.toFinset_append,
        Finset.union_assoc]
  exact (hloop collected_requests (∅, [])).trans (Finset.empty_union _)

variable [DecidableEq T]

/-- Preloading the lock of a height changes nothing the frame holds. -/
theorem frame_get (block_height : BlockHeight T) :
    self.Frame { self with authority := { self.authority with
      action_lock := (self.authority.action_lock.get block_height env.block_state).2 } } :=
  ⟨rfl, rfl, rfl, rfl, ActionLockCollection.get_action_lock_db _ _ _⟩

variable [DecidableEq B] [DecidableEq Hh]

/-- The state the handler hands to `close_round`: the lock of the request's height preloaded,
    and the request appended to the requests of its round. -/
def RoundAuthority.collect (self : RoundAuthority B T S N Sig Hh P) (env : RoundEnv B T S N K Sig Hh P E)
    (next_round_message : NextRound Sig B (BlockHeight T) N Hh) : RoundAuthority B T S N Sig Hh P :=
  { self with
    authority := { self.authority with
      action_lock := (self.authority.action_lock.get next_round_message.lock.height env.block_state).2 }
    collecting_next_round := Function.update self.collecting_next_round next_round_message.round_key
      (self.collecting_next_round next_round_message.round_key ++ [next_round_message]) }

/-- `close_round` writes the closed rounds and the block producer channel only. It closes the
    request's round or leaves the closed rounds as they are, and when it acts it has closed
    the round on the votes of a majority of the bk set. -/
theorem close_round_eq_some {parent_state : BlockStateView B (BlockHeight T) S P}
    {bk_set : BlockKeeperSet SignerIndex K N} {round_key : (B × BlockHeight T) × Nat}
    {nacked_blocks_bad_block : Finset B} {collected_requests : List (NextRound Sig B (BlockHeight T) N Hh)}
    (h : close_round env self parent_state bk_set round_key nacked_blocks_bad_block
      collected_requests = some (result, self')) :
    ∃ closed_round block_producers, self' = { self with closed_round, block_producers } ∧
      (closed_round = self.closed_round ∨
        closed_round = Function.update self.closed_round round_key.1 (some round_key.2)) ∧
      (result.acts = true →
        closed_round = Function.update self.closed_round round_key.1 (some round_key.2) ∧
        ∃ votes_target, div_ceil (bk_set.len + 1) 2 = some votes_target ∧
          votes_target ≤ (collect_votes collected_requests).1.card) := by
  unfold close_round at h
  rcases hvotes : collect_votes collected_requests with ⟨collected_voters, collected_attestations⟩
  rw [hvotes] at h
  dsimp only at h
  split at h
  · simp at h
  rename_i votes_target htarget
  split_ifs at h with hfew
  · exact close_round_quiet h
  split at h
  · simp at h
  split_ifs at h with hnone
  · exact close_round_quiet h
  split at h
  · simp at h
  split_ifs at h with hproduces
  · exact close_round_quiet h
  have hvotes_target : ∃ votes_target, div_ceil (bk_set.len + 1) 2 = some votes_target ∧
      votes_target ≤ (collected_voters, collected_attestations).1.card :=
    ⟨votes_target, htarget, Nat.le_of_not_lt hfew⟩
  split at h
  · obtain ⟨answer, -, hanswer⟩ := Option.map_eq_some_iff.mp h
    simp only [Prod.mk.injEq] at hanswer
    exact ⟨_, self.block_producers, hanswer.2.symm, .inr rfl, fun _ => ⟨rfl, hvotes_target⟩⟩
  · obtain ⟨block_producers, rfl, -⟩ := start_block_producer_eq_some h
    exact ⟨_, block_producers, rfl, .inr rfl, fun _ => ⟨rfl, hvotes_target⟩⟩

omit [DecidableEq T] in
/-- A resent block is broadcast, or nothing is done. -/
theorem resend_locked_block_cases {bk_set : BlockKeeperSet SignerIndex K N}
    {block_height : BlockHeight T} {round : Nat} {collected_attestations : List (Envelope Sig B Hh)}
    {block : ProposedBlock B}
    (h : resend_locked_block env bk_set block_height round collected_attestations block = some result) :
    result = .DoNothing ∨ ∃ envelope, result = .Broadcast envelope := by
  unfold resend_locked_block at h
  dsimp only at h
  repeat' split at h
  all_goals first
    | (simp only [Option.some.injEq] at h; subst h; simp)
    | simp at h

omit [DecidableEq T] in
/-- A resent block is broadcast only when its NACKs are resolved and it is not invalidated; the
    envelope is the block sealed for the round and the height, with its attestations
    aggregated. -/
theorem resend_locked_block_broadcast {bk_set : BlockKeeperSet SignerIndex K N}
    {block_height : BlockHeight T} {round : Nat} {collected_attestations : List (Envelope Sig B Hh)}
    {block : ProposedBlock B} {envelope : E}
    (h : resend_locked_block env bk_set block_height round collected_attestations block =
      some (.Broadcast envelope)) :
    (env.block_state block.identifier).has_all_nacks_resolved = true ∧
    (env.block_state block.identifier).is_invalidated = false ∧
    ∃ envelope_hash aggregated_attestations,
      env.envelope_hash block.identifier = some envelope_hash ∧
      aggregate_attestations env.bls
        { parent_block_id := block.parent, block_id := block.identifier,
          block_seq_no := block.seq_no, envelope_hash, target_type := .Primary }
        collected_attestations = some aggregated_attestations ∧
      env.sealed bk_set ⟨env.node_identifier, round, block_height, block, aggregated_attestations⟩ =
        some envelope := by
  unfold resend_locked_block at h
  dsimp only at h
  split_ifs at h with hstatus
  · simp at h
  simp only [Bool.or_eq_true, Bool.not_eq_true', not_or, Bool.not_eq_false, Bool.not_eq_true]
    at hstatus
  split at h
  · simp at h
  rename_i envelope_hash hhash
  split at h
  · simp at h
  rename_i aggregated_attestations haggregated
  split at h
  · simp at h
  rename_i envelope' hsealed
  simp only [Option.some.injEq, OnNextRoundIncomingRequestResult.Broadcast.injEq] at h
  subst h
  exact ⟨hstatus.1, hstatus.2, envelope_hash, aggregated_attestations, hhash, haggregated, hsealed⟩

/-- When `close_round` acts, every check has passed: the voters reach the target, the generation
    is not produced yet, and the scan of the locked blocks found a block the node knows, which
    is resent, or none, with a majority holding no block, and the producer is started; either
    on the round closed. -/
theorem close_round_acts_cases {parent_state : BlockStateView B (BlockHeight T) S P}
    {bk_set : BlockKeeperSet SignerIndex K N} {round_key : (B × BlockHeight T) × Nat}
    {nacked_blocks_bad_block : Finset B} {collected_requests : List (NextRound Sig B (BlockHeight T) N Hh)}
    (h : close_round env self parent_state bk_set round_key nacked_blocks_bad_block
      collected_requests = some (result, self'))
    (hacts : result.acts = true) :
    ∃ votes_target max_locked_block locked_none_count,
      div_ceil (bk_set.len + 1) 2 = some votes_target ∧
      votes_target ≤ (collect_votes collected_requests).1.card ∧
      scan_locked_blocks env collected_requests = some (max_locked_block, locked_none_count) ∧
      ((∃ block, max_locked_block = some block ∧
          resend_locked_block env bk_set round_key.1.2 round_key.2
            (collect_votes collected_requests).2 block = some result ∧
          self' = { self with
            closed_round := Function.update self.closed_round round_key.1 (some round_key.2) }) ∨
        (max_locked_block = none ∧ votes_target ≤ locked_none_count ∧
          start_block_producer env { self with
              closed_round := Function.update self.closed_round round_key.1 (some round_key.2) }
            parent_state round_key.1.1 bk_set round_key.1.2 round_key.2 nacked_blocks_bad_block =
            some (result, self'))) := by
  unfold close_round at h
  rcases hvotes : collect_votes collected_requests with ⟨collected_voters, collected_attestations⟩
  rw [hvotes] at h
  dsimp only at h
  split at h
  · simp at h
  rename_i votes_target htarget
  split_ifs at h with hfew
  · simp [(frame_of_do_nothing (.refl self) h).2] at hacts
  split at h
  · simp at h
  rename_i max_locked_block locked_none_count hscan
  split_ifs at h with hnone
  · simp [(frame_of_do_nothing (.refl self) h).2] at hacts
  split at h
  · simp at h
  split_ifs at h with hproduces
  · simp [(frame_of_do_nothing (.refl self) h).2] at hacts
  refine ⟨votes_target, max_locked_block, locked_none_count, htarget, Nat.le_of_not_lt hfew,
    hscan, ?_⟩
  split at h
  · rename_i block
    obtain ⟨answer, hanswer, hpair⟩ := Option.map_eq_some_iff.mp h
    simp only [Prod.mk.injEq] at hpair
    obtain ⟨rfl, rfl⟩ := hpair
    exact .inl ⟨block, rfl, hanswer, rfl⟩
  · simp only [Option.isNone_none, true_and, not_lt] at hnone
    exact .inr ⟨rfl, hnone, h⟩

variable [DecidableEq N]

/-- Inversion of `on_next_round_incoming_request`: a call either leaves the frame and does not
    act, or it collects a request signed by one keeper of the parent's bk set, checked, for this
    node, of a round not closed yet, and the rest is `close_round` on the requests with the
    node's own NACKs. -/
theorem on_next_round_incoming_request_eq_some {next_round_message : NextRound Sig B (BlockHeight T) N Hh}
    (h : on_next_round_incoming_request env self next_round_message = some (result, self')) :
    (self.Frame self' ∧ result.acts = false) ∨
    ∃ bk_set signer_index,
      next_round_message.signers = [signer_index] ∧
      env.descendant_bk_set next_round_message.lock.parent_block = some bk_set ∧
      (bk_set.get_by_signer signer_index).isSome ∧
      next_round_message.verify_signatures env.lock_bls bk_set.signer_to_pubkey = .ok true ∧
      next_round_message.lock.next_auth_node_id = env.node_identifier ∧
      (∀ last_closed_round, self.closed_round next_round_message.round_key.1 = some last_closed_round →
        last_closed_round < next_round_message.lock.locked_round) ∧
      close_round env (self.collect env next_round_message)
        (env.block_state next_round_message.lock.parent_block) bk_set next_round_message.round_key
        (self.authority.confirmed_bad_block_nacks next_round_message.lock.parent_block
          next_round_message.lock.height)
        ((self.collecting_next_round next_round_message.round_key ++ [next_round_message]).filter
          fun e => e.lock.nack_bad_block = self.authority.confirmed_bad_block_nacks
            next_round_message.lock.parent_block next_round_message.lock.height) =
        some (result, self') := by
  unfold on_next_round_incoming_request at h
  split at h
  rotate_left
  · exact .inl (frame_of_do_nothing (.refl self) h)
  rename_i signer_index hsigners
  dsimp only at h
  split at h
  · exact .inl (frame_of_do_nothing (.refl self) h)
  split at h
  · exact .inl (frame_of_do_nothing (.refl self) h)
  split at h
  · exact .inl (frame_of_do_nothing (.refl self) h)
  split at h
  · exact .inl (frame_of_do_nothing (.refl self) h)
  rename_i bk_set hbk_set
  split at h
  rotate_left
  · exact .inl (frame_of_do_nothing (.refl self) h)
  rename_i hverified
  split at h
  · exact .inl (frame_of_do_nothing (.refl self) h)
  rename_i data hsigner
  split at h
  · simp at h
  · obtain ⟨answer, hanswer, hpair⟩ := Option.map_eq_some_iff.mp h
    simp only [Prod.mk.injEq] at hpair
    obtain ⟨rfl, rfl⟩ := hpair
    exact .inl ⟨.refl self, reject_request_acts hanswer⟩
  rename_i hnext
  split at h
  · exact .inl (frame_of_do_nothing (frame_get _) h)
  rename_i hlocked_later
  split at h
  · exact .inl (frame_of_do_nothing (frame_get _) h)
  rename_i hclosed
  split at h
  · exact .inl (frame_of_do_nothing (frame_get _) h)
  rename_i hnode
  have hopen : ∀ last_closed_round,
      self.closed_round next_round_message.round_key.1 = some last_closed_round →
        last_closed_round < next_round_message.lock.locked_round := by
    intro last_closed_round hlast
    simp only [NextRound.round_key] at hlast
    simp only [hlast, Option.any_some, decide_eq_true_eq] at hclosed
    omega
  exact .inr ⟨bk_set, signer_index, hsigners, hbk_set, by simp [hsigner], hverified, not_not.mp hnode,
    hopen, h⟩

/-- The requests `close_round` weighs for a request: those collected for its round, with it,
    that NACK the blocks the node has confirmed bad at the request's parent and height. -/
def RoundAuthority.agreeing (self : RoundAuthority B T S N Sig Hh P)
    (next_round_message : NextRound Sig B (BlockHeight T) N Hh) :
    List (NextRound Sig B (BlockHeight T) N Hh) :=
  (self.collecting_next_round next_round_message.round_key ++ [next_round_message]).filter fun e =>
    e.lock.nack_bad_block = self.authority.confirmed_bad_block_nacks
      next_round_message.lock.parent_block next_round_message.lock.height

/-- One keeper: signer `0`, owned by node `7`. -/
def lone_keeper_set : BlockKeeperSet SignerIndex Unit Nat :=
  ⟨AList.singleton 0 ⟨(), 7⟩, AList.singleton 0 (), AList.singleton 7 0⟩

/-- A signature scheme under which every signature checks. -/
def trusting_scheme {D : Type} : BLSSignatureScheme Unit Unit D :=
  ⟨fun _ _ _ => .ok true, fun signature _ => .ok signature, fun _ => .ok ()⟩

/-- Block `5`, a child of block `0` proposed in round `0`. -/
def sample_block : ProposedBlock Nat := ⟨0, 0, 1, 5, ∅⟩

/-- Node `node` at time `1000`, `1000` ms into round `0` of its parent, made at time `0` with a
    bk set of one, by the node's default round buckets; it produces for no thread, and every
    block is prefinalized, sound and without children. -/
def sample_env (node : Nat) : RoundEnv Nat Unit Unit Nat Unit Unit Unit Unit Unit where
  block_state := fun _ =>
    ⟨false, true, false, true, none, none, some 0, none, some 1, some 0, none, none⟩
  descendant_bk_set := fun _ => some lone_keeper_set
  known_children := fun _ _ => none
  envelope_hash := fun _ => some ()
  candidate_block := fun block_identifier => if block_identifier = 5 then some sample_block else none
  finalized_block := fun _ => some none
  lock_bls := trusting_scheme
  bls := trusting_scheme
  sealed := fun _ _ => some ()
  node_identifier := node
  bp_production_count := 0
  now := 1000
  round_buckets := default_round_time

/-- Signer `0`'s request, on parent `0` at height `1`, for round `round`, asking node `node`. -/
def sample_request (node round : Nat) (locked_block : Option Nat) :
    NextRound Unit Nat (BlockHeight Unit) Nat Unit :=
  ⟨(), [(0, 1)], ⟨0, ⟨(), 1⟩, node, round, locked_block, ∅⟩, none⟩

/-- A node with no locks, nothing collected, no round closed and a block producer registered. -/
def sample_authority : RoundAuthority Nat Unit Unit Nat Unit Unit Unit :=
  ⟨⟨⟨fun _ => none, fun _ => none⟩, fun _ _ => ∅⟩, fun _ => [], fun _ => none, some []⟩

/-- A broadcast answers a request with the highest block that the requests agreeing with it lock
    and the node knows, its NACKs resolved and not invalidated, sealed for the request's round
    and height; the request's round is closed. -/
theorem broadcast_highest_locked_block {next_round_message : NextRound Sig B (BlockHeight T) N Hh}
    {envelope : E}
    (h : on_next_round_incoming_request env self next_round_message =
      some (.Broadcast envelope, self')) :
    ∃ bk_set block aggregated_attestations,
      env.descendant_bk_set next_round_message.lock.parent_block = some bk_set ∧
      (∃ e ∈ self.agreeing next_round_message, KnownLocked env e block) ∧
      (∀ e ∈ self.agreeing next_round_message, ∀ block', KnownLocked env e block' →
        block'.round ≤ block.round) ∧
      (env.block_state block.identifier).has_all_nacks_resolved = true ∧
      (env.block_state block.identifier).is_invalidated = false ∧
      env.sealed bk_set ⟨env.node_identifier, next_round_message.lock.locked_round,
        next_round_message.lock.height, block, aggregated_attestations⟩ = some envelope ∧
      self'.closed_round next_round_message.round_key.1 =
        some next_round_message.lock.locked_round := by
  rcases on_next_round_incoming_request_eq_some h with
    ⟨-, hacts⟩ | ⟨bk_set, -, -, hbk_set, -, -, -, -, hclose⟩
  · cases hacts
  obtain ⟨_, max_locked_block, _, -, -, hscan, hcases⟩ := close_round_acts_cases hclose rfl
  obtain ⟨-, hknown, hfrom⟩ := scan_locked_blocks_spec hscan
  rcases hcases with ⟨block, rfl, hresend, rfl⟩ | ⟨-, -, hstart⟩
  · obtain ⟨hresolved, hvalid, -, aggregated_attestations, -, -, hsealed⟩ :=
      resend_locked_block_broadcast hresend
    refine ⟨bk_set, block, aggregated_attestations, hbk_set, hfrom block rfl,
      fun e he block' hblock' => ?_, hresolved, hvalid, hsealed, by simp [NextRound.round_key]⟩
    obtain ⟨best, hbest, hle⟩ := hknown e he block' hblock'
    rw [Option.mem_def, Option.some.injEq] at hbest
    exact hbest ▸ hle
  · obtain ⟨-, -, hresult⟩ := start_block_producer_eq_some hstart
    simp at hresult

theorem broadcast_highest_locked_block_of_sample :
    ∃ envelope self',
      on_next_round_incoming_request (sample_env 1) sample_authority (sample_request 1 1 (some 5)) =
        some (.Broadcast envelope, self') ∧
      ∃ bk_set block aggregated_attestations,
        (sample_env 1).descendant_bk_set 0 = some bk_set ∧
        (∃ e ∈ sample_authority.agreeing (sample_request 1 1 (some 5)),
          KnownLocked (sample_env 1) e block) ∧
        (∀ e ∈ sample_authority.agreeing (sample_request 1 1 (some 5)), ∀ block',
          KnownLocked (sample_env 1) e block' → block'.round ≤ block.round) ∧
        ((sample_env 1).block_state block.identifier).has_all_nacks_resolved = true ∧
        ((sample_env 1).block_state block.identifier).is_invalidated = false ∧
        (sample_env 1).sealed bk_set ⟨1, 1, ⟨(), 1⟩, block, aggregated_attestations⟩ =
          some envelope ∧
        self'.closed_round (0, ⟨(), 1⟩) = some 1 := by
  have hbroadcast : (on_next_round_incoming_request (sample_env 1) sample_authority
      (sample_request 1 1 (some 5))).map
        (fun p => match p.1 with | .Broadcast _ => true | _ => false) = some true := by
    decide
  obtain ⟨⟨result, self'⟩, h, hmatch⟩ := Option.map_eq_some_iff.mp hbroadcast
  cases result with
  | Broadcast envelope => exact ⟨envelope, self', h, broadcast_highest_locked_block h⟩
  | _ => simp at hmatch

/-- A block producer is started for a request only when the requests agreeing with it that hold
    no block reach a majority of the bk set and none holds a block the node knows; it is sent
    one command, to produce on the request's parent in the request's round, and the round is
    closed. -/
theorem start_on_majority_without_lock {next_round_message : NextRound Sig B (BlockHeight T) N Hh}
    (h : on_next_round_incoming_request env self next_round_message =
      some (.StartingBlockProducer, self')) :
    ∃ bk_set votes_target commands parent_block_seq_no nacked_blocks,
      env.descendant_bk_set next_round_message.lock.parent_block = some bk_set ∧
      div_ceil (bk_set.len + 1) 2 = some votes_target ∧
      votes_target ≤
        ((self.agreeing next_round_message).filter fun e => e.lock.locked_block.isNone).length ∧
      (∀ e ∈ self.agreeing next_round_message, ∀ block, ¬KnownLocked env e block) ∧
      self.block_producers = some commands ∧
      (env.block_state next_round_message.lock.parent_block).block_seq_no = some parent_block_seq_no ∧
      load_nacked_blocks env (self.authority.confirmed_bad_block_nacks
        next_round_message.lock.parent_block next_round_message.lock.height) = some nacked_blocks ∧
      self'.block_producers = some (commands ++
        [⟨next_round_message.lock.height.thread_identifier, next_round_message.lock.parent_block,
          parent_block_seq_no, next_round_message.lock.locked_round, nacked_blocks⟩]) ∧
      self'.closed_round next_round_message.round_key.1 =
        some next_round_message.lock.locked_round := by
  rcases on_next_round_incoming_request_eq_some h with
    ⟨-, hacts⟩ | ⟨bk_set, -, -, hbk_set, -, -, -, -, hclose⟩
  · cases hacts
  obtain ⟨votes_target, max_locked_block, locked_none_count, htarget, -, hscan, hcases⟩ :=
    close_round_acts_cases hclose rfl
  obtain ⟨hcount, hknown, -⟩ := scan_locked_blocks_spec hscan
  rcases hcases with ⟨block, -, hresend, -⟩ | ⟨rfl, hmajority, hstart⟩
  · rcases resend_locked_block_cases hresend with hresult | ⟨envelope, hresult⟩ <;> cases hresult
  · obtain ⟨commands, parent_block_seq_no, nacked_blocks, hcommands, hseq_no, hnacked, rfl⟩ :=
      start_block_producer_starts hstart
    refine ⟨bk_set, votes_target, commands, parent_block_seq_no, nacked_blocks, hbk_set, htarget,
      hcount ▸ hmajority, fun e he block hblock => ?_, hcommands, hseq_no, hnacked, rfl,
      by simp [NextRound.round_key]⟩
    obtain ⟨best, hbest, -⟩ := hknown e he block hblock
    simp at hbest

theorem start_on_majority_without_lock_of_sample :
    ∃ self',
      on_next_round_incoming_request (sample_env 1) sample_authority (sample_request 1 1 none) =
        some (.StartingBlockProducer, self') ∧
      ∃ bk_set votes_target commands parent_block_seq_no nacked_blocks,
        (sample_env 1).descendant_bk_set 0 = some bk_set ∧
        div_ceil (bk_set.len + 1) 2 = some votes_target ∧
        votes_target ≤ ((sample_authority.agreeing (sample_request 1 1 none)).filter
          fun e => e.lock.locked_block.isNone).length ∧
        (∀ e ∈ sample_authority.agreeing (sample_request 1 1 none), ∀ block,
          ¬KnownLocked (sample_env 1) e block) ∧
        sample_authority.block_producers = some commands ∧
        ((sample_env 1).block_state 0).block_seq_no = some parent_block_seq_no ∧
        load_nacked_blocks (sample_env 1) ∅ = some nacked_blocks ∧
        self'.block_producers = some (commands ++ [⟨(), 0, parent_block_seq_no, 1, nacked_blocks⟩]) ∧
        self'.closed_round (0, ⟨(), 1⟩) = some 1 := by
  have hstart : (on_next_round_incoming_request (sample_env 1) sample_authority
      (sample_request 1 1 none)).map
        (fun p => match p.1 with | .StartingBlockProducer => true | _ => false) = some true := by
    decide
  obtain ⟨⟨result, self'⟩, h, hmatch⟩ := Option.map_eq_some_iff.mp hstart
  cases result with
  | StartingBlockProducer => exact ⟨self', h, start_on_majority_without_lock h⟩
  | _ => simp at hmatch

end Spec

end ackinacki.protocol.authority_switch
