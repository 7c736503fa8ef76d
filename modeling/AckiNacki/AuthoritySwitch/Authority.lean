import Mathlib.Order.WithBot
import Mathlib.Data.Finset.Card
import AckiNacki.Lib.Run
import AckiNacki.AuthoritySwitch.NextRound

namespace ackinacki.protocol.authority_switch

open ackinacki.types (BlockHeight)
open ackinacki.types.attestation (SignerIndex)
open ackinacki.block_keeper_system (BlockKeeperSet)
open ThreadAuthority (NextRoundSuccess StartNextRoundOutcome)

/-- The environment the lock handling's calls read: the block state repository and the round
    buckets. -/
def RoundEnv.toEnv {B T S N K Sig Hh P E : Type} (env : RoundEnv B T S N K Sig Hh P E) :
    Env B (BlockHeight T) S P :=
  ⟨env.block_state, env.round_buckets⟩

/-- What the node hands its thread authority. A stalled block producer is handed with the last
    prefinalized block of the thread and the height after it, which `on_block_producer_stalled`
    looks up before it starts the next round. -/
inductive AuthorityEvent (B T N Sig Hh : Type) where
  | attestation (block_identifier : B)
  | block_producer_stalled (parent_block_id : B) (block_height : BlockHeight T)
  | bad_block_nack_confirmed (block : B)
  | next_round_success (next_round_success : NextRoundSuccess B (BlockHeight T))
  | next_round_request (next_round_message : NextRound Sig B (BlockHeight T) N Hh)
  | block_finalized (block_height : BlockHeight T)
  | register_block_producer

/-- What each call answers. -/
inductive AuthorityOutput (B N E R L : Type) where
  | attestation (result : ActionLockResult)
  | next_round (outcome : StartNextRoundOutcome L)
  | abandoned (locked_block : Option (Nat × BlockRef B))
  | next_round_request (result : OnNextRoundIncomingRequestResult N E R)
  | done

/-- The node broadcast a block or started a block producer. -/
def AuthorityOutput.acts {B N E R L : Type} : AuthorityOutput B N E R L → Bool
  | .next_round_request result => result.acts
  | _ => false

section Step

variable {B T S N K Sig Hh P E : Type} [DecidableEq B] [DecidableEq T] [DecidableEq N]
  [DecidableEq Hh] [Inhabited B]

/-- One call of the thread authority; `none` is a panic. The lock handling changes the locks
    only, and `register_block_producer` opens a new channel. -/
def RoundAuthority.step (self : RoundAuthority B T S N Sig Hh P) :
    RoundEnv B T S N K Sig Hh P E × AuthorityEvent B T N Sig Hh →
      Option (AuthorityOutput B N E (NextRoundReject T B P) (ActionLock S P B) ×
        RoundAuthority B T S N Sig Hh P)
  | (env, .attestation block_identifier) =>
    (ThreadAuthority.try_lock_send_attestation_action env.toEnv env.now self.authority
      block_identifier).map fun (result, authority) => (.attestation result, { self with authority })
  | (env, .block_producer_stalled parent_block_id block_height) =>
    (ThreadAuthority.start_next_round env.toEnv env.now self.authority parent_block_id
      block_height).map fun (outcome, authority) => (.next_round outcome, { self with authority })
  | (env, .bad_block_nack_confirmed block) =>
    (ThreadAuthority.on_bad_block_nack_confirmed env.toEnv env.now self.authority block).map
      fun authority => (.done, { self with authority })
  | (env, .next_round_success next_round_success) =>
    (ThreadAuthority.on_next_round_success env.toEnv self.authority next_round_success).map
      fun (authority, abandoned) => (.abandoned abandoned, { self with authority })
  | (env, .next_round_request next_round_message) =>
    (on_next_round_incoming_request env self next_round_message).map
      fun (result, self) => (.next_round_request result, self)
  | (_, .block_finalized block_height) =>
    some (.done, { self with authority := self.authority.on_block_finalized block_height })
  | (_, .register_block_producer) => some (.done, { self with block_producers := some [] })

variable {self self' : RoundAuthority B T S N Sig Hh P} {env : RoundEnv B T S N K Sig Hh P E}
  {event : AuthorityEvent B T N Sig Hh}
  {output : AuthorityOutput B N E (NextRoundReject T B P) (ActionLock S P B)}

/-- Inversion of a step: every call but a request leaves the round collection and the closed
    rounds as they are and does not act. -/
theorem RoundAuthority.step_eq_some (h : self.step (env, event) = some (output, self')) :
    (self'.collecting_next_round = self.collecting_next_round ∧
      self'.closed_round = self.closed_round ∧ output.acts = false) ∨
    ∃ next_round_message result, event = .next_round_request next_round_message ∧
      output = .next_round_request result ∧
      on_next_round_incoming_request env self next_round_message = some (result, self') := by
  cases event with
  | next_round_request next_round_message =>
    obtain ⟨⟨result, self''⟩, hcall, hpair⟩ := Option.map_eq_some_iff.mp h
    simp only [Prod.mk.injEq] at hpair
    obtain ⟨rfl, rfl⟩ := hpair
    exact .inr ⟨next_round_message, result, rfl, rfl, hcall⟩
  | block_finalized block_height =>
    simp only [RoundAuthority.step, Option.some.injEq, Prod.mk.injEq] at h
    obtain ⟨rfl, rfl⟩ := h
    exact .inl ⟨rfl, rfl, rfl⟩
  | register_block_producer =>
    simp only [RoundAuthority.step, Option.some.injEq, Prod.mk.injEq] at h
    obtain ⟨rfl, rfl⟩ := h
    exact .inl ⟨rfl, rfl, rfl⟩
  | bad_block_nack_confirmed block =>
    obtain ⟨authority, -, hpair⟩ := Option.map_eq_some_iff.mp h
    simp only [Prod.mk.injEq] at hpair
    obtain ⟨rfl, rfl⟩ := hpair
    exact .inl ⟨rfl, rfl, rfl⟩
  | attestation block_identifier =>
    obtain ⟨⟨result, authority⟩, -, hpair⟩ := Option.map_eq_some_iff.mp h
    simp only [Prod.mk.injEq] at hpair
    obtain ⟨rfl, rfl⟩ := hpair
    exact .inl ⟨rfl, rfl, rfl⟩
  | block_producer_stalled parent_block_id block_height =>
    obtain ⟨⟨outcome, authority⟩, -, hpair⟩ := Option.map_eq_some_iff.mp h
    simp only [Prod.mk.injEq] at hpair
    obtain ⟨rfl, rfl⟩ := hpair
    exact .inl ⟨rfl, rfl, rfl⟩
  | next_round_success next_round_success =>
    obtain ⟨⟨authority, abandoned⟩, -, hpair⟩ := Option.map_eq_some_iff.mp h
    simp only [Prod.mk.injEq] at hpair
    obtain ⟨rfl, rfl⟩ := hpair
    exact .inl ⟨rfl, rfl, rfl⟩

end Step

/-- What stays the same for a node from call to call: the bk set a block has once it is known,
    the lock signature scheme, and the node's identifier. -/
structure RoundKeys (B T N K Sig : Type) where
  descendant_bk_set : B → Option (BlockKeeperSet SignerIndex K N)
  lock_bls : ackinacki.types.attestation.BLSSignatureScheme Sig K (Lock B (BlockHeight T) N)
  node_identifier : N

section Collected

variable {B T S N K Sig Hh P E : Type}

/-- The keys a call reads. -/
def RoundEnv.keys (env : RoundEnv B T S N K Sig Hh P E) : RoundKeys B T N K Sig :=
  ⟨env.descendant_bk_set, env.lock_bls, env.node_identifier⟩

/-- A call sees the bk set of a block as the keys have it, or none yet, and checks locks with
    the node's scheme for the node's identifier. -/
structure RoundEnv.Respects (env : RoundEnv B T S N K Sig Hh P E) (keys : RoundKeys B T N K Sig) :
    Prop where
  descendant_bk_set : ∀ block bk_set, env.descendant_bk_set block = some bk_set →
    keys.descendant_bk_set block = some bk_set
  lock_bls : env.lock_bls = keys.lock_bls
  node_identifier : env.node_identifier = keys.node_identifier

/-- A call respects the keys it reads. -/
theorem RoundEnv.respects_keys (env : RoundEnv B T S N K Sig Hh P E) : env.Respects env.keys :=
  ⟨fun _ _ hbk_set => hbk_set, rfl, rfl⟩

/-- A request signed by one keeper of its parent's bk set, with a signature that checks, and
    addressed to the node. -/
def Admitted (keys : RoundKeys B T N K Sig) (next_round_message : NextRound Sig B (BlockHeight T) N Hh) :
    Prop :=
  ∃ bk_set signer_index,
    keys.descendant_bk_set next_round_message.lock.parent_block = some bk_set ∧
    next_round_message.signers = [signer_index] ∧ (bk_set.get_by_signer signer_index).isSome ∧
    next_round_message.verify_signatures keys.lock_bls bk_set.signer_to_pubkey = .ok true ∧
    next_round_message.lock.next_auth_node_id = keys.node_identifier

/-- Every request the node holds is admitted and filed under its own round. -/
def Collected (keys : RoundKeys B T N K Sig) (self : RoundAuthority B T S N Sig Hh P) : Prop :=
  ∀ round_key, ∀ next_round_message ∈ self.collecting_next_round round_key,
    next_round_message.round_key = round_key ∧ Admitted keys next_round_message

/-- The requests the node holds for a round are signed by a majority of the parent's bk set. -/
def MajorityCollected (keys : RoundKeys B T N K Sig) (self : RoundAuthority B T S N Sig Hh P)
    (round_key : (B × BlockHeight T) × Nat) : Prop :=
  ∃ bk_set, keys.descendant_bk_set round_key.1.1 = some bk_set ∧
    (bk_set.len + 2) / 2 ≤ ((self.collecting_next_round round_key).flatMap NextRound.signers).toFinset.card

theorem collected_empty (keys : RoundKeys B T N K Sig) (self : RoundAuthority B T S N Sig Hh P)
    (hempty : ∀ round_key, self.collecting_next_round round_key = []) : Collected keys self := by
  intro round_key next_round_message hmem
  simp [hempty round_key] at hmem

/-- More requests under a round keep its majority. -/
theorem MajorityCollected.of_grows {keys : RoundKeys B T N K Sig}
    {self self' : RoundAuthority B T S N Sig Hh P} {round_key : (B × BlockHeight T) × Nat}
    (hmajority : MajorityCollected keys self round_key)
    (hgrows : self.collecting_next_round round_key <+: self'.collecting_next_round round_key) :
    MajorityCollected keys self' round_key := by
  obtain ⟨bk_set, hbk_set, hcard⟩ := hmajority
  refine ⟨bk_set, hbk_set, hcard.trans (Finset.card_le_card ?_)⟩
  intro signer hsigner
  simp only [List.mem_toFinset, List.mem_flatMap] at hsigner ⊢
  obtain ⟨next_round_message, hmem, hsigned⟩ := hsigner
  exact ⟨next_round_message, hgrows.subset hmem, hsigned⟩

theorem Admitted.of_respects {env : RoundEnv B T S N K Sig Hh P E} {keys : RoundKeys B T N K Sig}
    {next_round_message : NextRound Sig B (BlockHeight T) N Hh} (hrespects : env.Respects keys)
    (hadmitted : Admitted env.keys next_round_message) : Admitted keys next_round_message := by
  obtain ⟨bk_set, signer_index, hbk_set, hsigners, hsigner, hverified, hnode⟩ := hadmitted
  refine ⟨bk_set, signer_index, hrespects.descendant_bk_set _ _ hbk_set, hsigners, hsigner, ?_, ?_⟩
  · rw [← hrespects.lock_bls]
    exact hverified
  · rw [← hrespects.node_identifier]
    exact hnode

theorem MajorityCollected.of_respects {env : RoundEnv B T S N K Sig Hh P E}
    {keys : RoundKeys B T N K Sig} {self : RoundAuthority B T S N Sig Hh P}
    {round_key : (B × BlockHeight T) × Nat} (hrespects : env.Respects keys)
    (hmajority : MajorityCollected env.keys self round_key) : MajorityCollected keys self round_key :=
  let ⟨bk_set, hbk_set, hcard⟩ := hmajority
  ⟨bk_set, hrespects.descendant_bk_set _ _ hbk_set, hcard⟩

/-- A signer of the requests the node holds for a round signed, alone, one of them: with a
    signature that checks against the parent's bk set, which holds it, and naming the node. -/
theorem Collected.mem_signers {keys : RoundKeys B T N K Sig} {self : RoundAuthority B T S N Sig Hh P}
    (hcollected : Collected keys self) {round_key : (B × BlockHeight T) × Nat}
    {bk_set : BlockKeeperSet SignerIndex K N}
    (hbk_set : keys.descendant_bk_set round_key.1.1 = some bk_set) {signer_index : SignerIndex}
    (hsigner : signer_index ∈ ((self.collecting_next_round round_key).flatMap NextRound.signers).toFinset) :
    ∃ e ∈ self.collecting_next_round round_key, e.signers = [signer_index] ∧
      (bk_set.get_by_signer signer_index).isSome ∧
      e.verify_signatures keys.lock_bls bk_set.signer_to_pubkey = .ok true ∧
      e.lock.next_auth_node_id = keys.node_identifier := by
  simp only [List.mem_toFinset, List.mem_flatMap] at hsigner
  obtain ⟨e, he, hsigned⟩ := hsigner
  obtain ⟨hkey, bk_set', signer_index', hbk_set', hsigners, hsigner', hverified, hnode⟩ :=
    hcollected round_key e he
  have hparent : e.lock.parent_block = round_key.1.1 := by rw [← hkey]; rfl
  rw [hparent, hbk_set, Option.some.injEq] at hbk_set'
  subst hbk_set'
  rw [hsigners, List.mem_singleton] at hsigned
  subst hsigned
  exact ⟨e, he, hsigners, hsigner', hverified, hnode⟩

/-- The signers of the requests the node holds for a round are keepers of the parent's bk set. -/
theorem Collected.signers_subset {keys : RoundKeys B T N K Sig} {self : RoundAuthority B T S N Sig Hh P}
    (hcollected : Collected keys self) {round_key : (B × BlockHeight T) × Nat}
    {bk_set : BlockKeeperSet SignerIndex K N}
    (hbk_set : keys.descendant_bk_set round_key.1.1 = some bk_set) :
    ((self.collecting_next_round round_key).flatMap NextRound.signers).toFinset ⊆
      bk_set.by_signer.keys.toFinset := by
  intro signer_index hsigner
  obtain ⟨-, -, -, hkeeper, -⟩ := hcollected.mem_signers hbk_set hsigner
  rw [List.mem_toFinset, ← AList.mem_keys, ← AList.lookup_isSome]
  exact hkeeper

end Collected

theorem card_keys_toFinset {K N : Type} (bk_set : BlockKeeperSet SignerIndex K N) :
    bk_set.by_signer.keys.toFinset.card = bk_set.len := by
  rw [List.toFinset_card_of_nodup bk_set.by_signer.keys_nodup]
  simp [BlockKeeperSet.len, AList.keys, List.keys]

section Rounds

variable {B T S N K Sig Hh P E : Type} [DecidableEq B] [DecidableEq T] [DecidableEq N]
  [DecidableEq Hh] {env : RoundEnv B T S N K Sig Hh P E} {self self' : RoundAuthority B T S N Sig Hh P}
  {next_round_message : NextRound Sig B (BlockHeight T) N Hh}
  {result : OnNextRoundIncomingRequestResult N E (NextRoundReject T B P)}

/-- A request either leaves the round collection and the closed rounds and does not act, or it is
    admitted to an open round and appended to its requests; then the round is closed or left
    open, and it is closed, on a majority, whenever the node acts. -/
theorem on_next_round_incoming_request_rounds
    (h : on_next_round_incoming_request env self next_round_message = some (result, self')) :
    (self'.collecting_next_round = self.collecting_next_round ∧
      self'.closed_round = self.closed_round ∧ result.acts = false) ∨
    (Admitted env.keys next_round_message ∧
      (∀ last_closed_round, self.closed_round next_round_message.round_key.1 = some last_closed_round →
        last_closed_round < next_round_message.lock.locked_round) ∧
      self'.collecting_next_round = Function.update self.collecting_next_round
        next_round_message.round_key
        (self.collecting_next_round next_round_message.round_key ++ [next_round_message]) ∧
      (self'.closed_round = self.closed_round ∨
        self'.closed_round = Function.update self.closed_round next_round_message.round_key.1
          (some next_round_message.lock.locked_round)) ∧
      (result.acts = true →
        self'.closed_round = Function.update self.closed_round next_round_message.round_key.1
          (some next_round_message.lock.locked_round) ∧
        MajorityCollected env.keys self' next_round_message.round_key)) := by
  rcases on_next_round_incoming_request_eq_some h with ⟨hframe, hacts⟩ |
    ⟨bk_set, signer_index, hsigners, hbk_set, hsigner, hverified, hnode, hopen, hclose⟩
  · obtain ⟨hcollecting, hclosed, -, -, -⟩ := hframe
    exact .inl ⟨hcollecting, hclosed, hacts⟩
  obtain ⟨closed_round, block_producers, rfl, hclosed, hacts⟩ := close_round_eq_some hclose
  refine .inr ⟨⟨bk_set, signer_index, hbk_set, hsigners, hsigner, hverified, hnode⟩, hopen, rfl,
    hclosed, fun hact => ?_⟩
  obtain ⟨hclosed_eq, votes_target, htarget, hvotes⟩ := hacts hact
  refine ⟨hclosed_eq, bk_set, hbk_set, ?_⟩
  have htarget_eq : votes_target = (bk_set.len + 2) / 2 := by
    simp [div_ceil] at htarget
    omega
  have hsubset : ((List.filter (fun e => decide (e.lock.nack_bad_block =
        self.authority.confirmed_bad_block_nacks next_round_message.lock.parent_block
          next_round_message.lock.height))
        (self.collecting_next_round next_round_message.round_key ++ [next_round_message])).flatMap
          NextRound.signers).toFinset ⊆
      ((self.collecting_next_round next_round_message.round_key ++ [next_round_message]).flatMap
        NextRound.signers).toFinset := by
    intro signer hsigner
    simp only [List.mem_toFinset, List.mem_flatMap, List.mem_filter] at hsigner ⊢
    obtain ⟨e, ⟨hmem, -⟩, hsigned⟩ := hsigner
    exact ⟨e, hmem, hsigned⟩
  rw [collect_votes_voters] at hvotes
  rw [← htarget_eq]
  refine hvotes.trans ((Finset.card_le_card hsubset).trans (le_of_eq ?_))
  simp [RoundAuthority.collect]

/-- The round closed for a key, as a point of `WithBot Nat`: below every round while none is
    closed. -/
def closed_mark (closed_round : B × BlockHeight T → Option Nat) (key : B × BlockHeight T) :
    WithBot Nat :=
  closed_round key

/-- Closing a round above the one closed before raises the closed round of its key and keeps
    the others. -/
theorem closed_mark_le_update {closed_round : B × BlockHeight T → Option Nat}
    {key : B × BlockHeight T} {round : Nat}
    (hopen : ∀ last_closed_round, closed_round key = some last_closed_round → last_closed_round < round)
    (other : B × BlockHeight T) :
    closed_mark closed_round other ≤ closed_mark (Function.update closed_round key (some round)) other := by
  unfold closed_mark
  by_cases hother : other = key
  · subst hother
    rw [Function.update_self]
    cases hclosed : closed_round other with
    | none => exact bot_le
    | some last_closed_round => exact WithBot.coe_le_coe.mpr (hopen last_closed_round hclosed).le
  · rw [Function.update_of_ne hother]
    exact le_rfl

variable [Inhabited B] {event : AuthorityEvent B T N Sig Hh}
  {output : AuthorityOutput B N E (NextRoundReject T B P) (ActionLock S P B)}

/-- No call lowers the closed round of a key. -/
theorem RoundAuthority.step_closed_mark_le (h : self.step (env, event) = some (output, self'))
    (key : B × BlockHeight T) : closed_mark self.closed_round key ≤ closed_mark self'.closed_round key := by
  rcases self.step_eq_some h with ⟨-, hclosed, -⟩ | ⟨next_round_message, result, -, -, hcall⟩
  · rw [hclosed]
  rcases on_next_round_incoming_request_rounds hcall with ⟨-, hclosed, -⟩ |
    ⟨-, hopen, -, hclosed | hclosed, -⟩
  · rw [hclosed]
  · rw [hclosed]
  · rw [hclosed]
    exact closed_mark_le_update hopen key

/-- Requests are only ever appended to a round's requests. -/
theorem RoundAuthority.step_collecting_grows (h : self.step (env, event) = some (output, self'))
    (round_key : (B × BlockHeight T) × Nat) :
    self.collecting_next_round round_key <+: self'.collecting_next_round round_key := by
  rcases self.step_eq_some h with ⟨hcollecting, -, -⟩ | ⟨next_round_message, result, -, -, hcall⟩
  · rw [hcollecting]
  rcases on_next_round_incoming_request_rounds hcall with ⟨hcollecting, -, -⟩ |
    ⟨-, -, hcollecting, -, -⟩
  · rw [hcollecting]
  · rw [hcollecting]
    by_cases hkey : round_key = next_round_message.round_key
    · subst hkey
      rw [Function.update_self]
      exact List.prefix_append _ _
    · rw [Function.update_of_ne hkey]

/-- A call that acts answers a request of a round above the round closed for its key, closes
    that round, and holds a majority's requests for it. -/
theorem RoundAuthority.step_acts (h : self.step (env, event) = some (output, self'))
    (hacts : output.acts = true) :
    ∃ next_round_message, event = .next_round_request next_round_message ∧
      (∀ last_closed_round, self.closed_round next_round_message.round_key.1 = some last_closed_round →
        last_closed_round < next_round_message.lock.locked_round) ∧
      self'.closed_round next_round_message.round_key.1 = some next_round_message.lock.locked_round ∧
      MajorityCollected env.keys self' next_round_message.round_key := by
  rcases self.step_eq_some h with ⟨-, -, hquiet⟩ | ⟨next_round_message, result, rfl, rfl, hcall⟩
  · rw [hquiet] at hacts
    exact absurd hacts Bool.false_ne_true
  rcases on_next_round_incoming_request_rounds hcall with ⟨-, -, hquiet⟩ |
    ⟨-, hopen, -, -, hacted⟩
  · rw [AuthorityOutput.acts, hquiet] at hacts
    exact absurd hacts Bool.false_ne_true
  obtain ⟨hclosed, hmajority⟩ := hacted hacts
  refine ⟨next_round_message, rfl, hopen, ?_, hmajority⟩
  rw [hclosed, Function.update_self]

variable {keys : RoundKeys B T N K Sig}

/-- A call keeps every request the node holds admitted and under its own round. -/
theorem Collected.step (hrespects : env.Respects keys) (hcollected : Collected keys self)
    (h : self.step (env, event) = some (output, self')) : Collected keys self' := by
  rcases self.step_eq_some h with ⟨hcollecting, -, -⟩ | ⟨next_round_message, result, -, -, hcall⟩
  · intro round_key e he
    rw [hcollecting] at he
    exact hcollected round_key e he
  rcases on_next_round_incoming_request_rounds hcall with ⟨hcollecting, -, -⟩ |
    ⟨hadmitted, -, hcollecting, -, -⟩
  · intro round_key e he
    rw [hcollecting] at he
    exact hcollected round_key e he
  intro round_key e he
  rw [hcollecting] at he
  by_cases hkey : round_key = next_round_message.round_key
  · subst hkey
    rw [Function.update_self] at he
    rcases List.mem_append.mp he with he | he
    · exact hcollected _ e he
    · rw [List.mem_singleton.mp he]
      exact ⟨rfl, hadmitted.of_respects hrespects⟩
  · rw [Function.update_of_ne hkey] at he
    exact hcollected round_key e he

end Rounds

section Runs

variable {B T S N K Sig Hh P E : Type} [DecidableEq B] [DecidableEq T]

/-- The round a call acted on for a key: the round of the request answered by a broadcast or a
    block producer started. -/
def acted_round (key : B × BlockHeight T) :
    RoundEnv B T S N K Sig Hh P E × AuthorityEvent B T N Sig Hh →
      AuthorityOutput B N E (NextRoundReject T B P) (ActionLock S P B) → Option Nat
  | (_, .next_round_request next_round_message), .next_round_request result =>
    if result.acts = true ∧ next_round_message.round_key.1 = key then
      some next_round_message.lock.locked_round
    else none
  | _, _ => none

/-- The rounds a run acted on for a key, in order. -/
def acted_rounds (key : B × BlockHeight T)
    (trace : List ((RoundEnv B T S N K Sig Hh P E × AuthorityEvent B T N Sig Hh) ×
      AuthorityOutput B N E (NextRoundReject T B P) (ActionLock S P B))) : List Nat :=
  trace.filterMap fun p => acted_round key p.1 p.2

theorem acted_round_eq_some {key : B × BlockHeight T}
    {input : RoundEnv B T S N K Sig Hh P E × AuthorityEvent B T N Sig Hh}
    {output : AuthorityOutput B N E (NextRoundReject T B P) (ActionLock S P B)} {round : Nat}
    (h : acted_round key input output = some round) :
    ∃ next_round_message, input.2 = .next_round_request next_round_message ∧ output.acts = true ∧
      next_round_message.round_key.1 = key ∧ round = next_round_message.lock.locked_round := by
  obtain ⟨env, event⟩ := input
  cases event <;> cases output <;> simp only [acted_round, reduceCtorEq] at h
  rename_i next_round_message result
  split_ifs at h with hacted
  simp only [Option.some.injEq] at h
  exact ⟨next_round_message, rfl, hacted.1, hacted.2, h.symm⟩

theorem stamps_acted_round (key : B × BlockHeight T)
    (trace : List ((RoundEnv B T S N K Sig Hh P E × AuthorityEvent B T N Sig Hh) ×
      AuthorityOutput B N E (NextRoundReject T B P) (ActionLock S P B))) :
    Run.stamps (fun input output => (acted_round key input output).map WithBot.some) trace =
      (acted_rounds key trace).map WithBot.some := by
  simp only [Run.stamps, acted_rounds, List.map_filterMap]

variable [DecidableEq N] [DecidableEq Hh] [Inhabited B]

/-- The closed round of a key is a high-water mark of the calls, and the rounds acted on for the
    key are its stamps. -/
theorem closed_mark_high_water (key : B × BlockHeight T) :
    Run.HighWaterMark RoundAuthority.step
      (fun self : RoundAuthority B T S N Sig Hh P => closed_mark self.closed_round key)
      (fun (input : RoundEnv B T S N K Sig Hh P E × AuthorityEvent B T N Sig Hh) output =>
        (acted_round key input output).map WithBot.some) where
  mono h := RoundAuthority.step_closed_mark_le h key
  stamp {self input output self' b} h hb := by
    obtain ⟨round, hround, rfl⟩ := Option.map_eq_some_iff.mp hb
    obtain ⟨next_round_message, hevent, hacts, hkey, rfl⟩ := acted_round_eq_some hround
    obtain ⟨env, event⟩ := input
    obtain ⟨next_round_message', hevent', hopen, hclosed, -⟩ := RoundAuthority.step_acts h hacts
    cases hevent
    cases hevent'
    subst hkey
    refine ⟨?_, ?_⟩
    · unfold closed_mark
      cases hlast : self.closed_round next_round_message.round_key.1 with
      | none => exact WithBot.bot_lt_coe _
      | some last_closed_round => exact WithBot.coe_lt_coe.mpr (hopen last_closed_round hlast)
    · unfold closed_mark
      rw [hclosed]
      exact le_rfl

/-- Over any run of calls, the node acts on the rounds of a height in strictly increasing order,
    so at most once a round, and only on rounds above the one closed before the run: a round it
    has acted on is never broadcast or produced again. -/
theorem acted_rounds_increase
    {inputs : List (RoundEnv B T S N K Sig Hh P E × AuthorityEvent B T N Sig Hh)}
    {self self' : RoundAuthority B T S N Sig Hh P}
    {trace : List ((RoundEnv B T S N K Sig Hh P E × AuthorityEvent B T N Sig Hh) ×
      AuthorityOutput B N E (NextRoundReject T B P) (ActionLock S P B))}
    (h : Run.run RoundAuthority.step self inputs = some (trace, self')) (key : B × BlockHeight T) :
    (acted_rounds key trace).Pairwise (· < ·) ∧
      ∀ round ∈ acted_rounds key trace,
        (∀ last_closed_round, self.closed_round key = some last_closed_round →
          last_closed_round < round) ∧
        ∃ last_closed_round, self'.closed_round key = some last_closed_round ∧ round ≤ last_closed_round := by
  obtain ⟨-, hbetween, hpairwise⟩ := (closed_mark_high_water key).run h
  rw [stamps_acted_round] at hbetween hpairwise
  refine ⟨List.pairwise_map.mp hpairwise |>.imp WithBot.coe_lt_coe.mp, fun round hround => ?_⟩
  obtain ⟨hbelow, habove⟩ := hbetween round (List.mem_map_of_mem hround)
  refine ⟨fun last_closed_round hlast => ?_, ?_⟩
  · simp only [closed_mark, hlast] at hbelow
    exact WithBot.coe_lt_coe.mp hbelow
  · unfold closed_mark at habove
    cases hlast : self'.closed_round key with
    | none =>
      rw [hlast] at habove
      exact absurd habove (WithBot.not_coe_le_bot round)
    | some last_closed_round =>
      rw [hlast] at habove
      exact ⟨last_closed_round, rfl, WithBot.coe_le_coe.mp habove⟩

/-- Node `1` starts producing for round `1`, then for round `2`, and ignores round `1` asked
    again. -/
theorem acted_rounds_increase_on_sample_run :
    ∃ trace self',
      Run.run RoundAuthority.step sample_authority
        [(sample_env 1, .next_round_request (sample_request 1 1 none)),
          (sample_env 1, .next_round_request (sample_request 1 2 none)),
          (sample_env 1, .next_round_request (sample_request 1 1 none))] = some (trace, self') ∧
      acted_rounds (0, ⟨(), 1⟩) trace = [1, 2] ∧
      (acted_rounds (0, ⟨(), 1⟩) trace).Pairwise (· < ·) ∧
      ∀ round ∈ acted_rounds (0, ⟨(), 1⟩) trace,
        (∀ last_closed_round, sample_authority.closed_round (0, ⟨(), 1⟩) = some last_closed_round →
          last_closed_round < round) ∧
        ∃ last_closed_round, self'.closed_round (0, ⟨(), 1⟩) = some last_closed_round ∧
          round ≤ last_closed_round := by
  have hrounds : (Run.run RoundAuthority.step sample_authority
      [(sample_env 1, .next_round_request (sample_request 1 1 none)),
        (sample_env 1, .next_round_request (sample_request 1 2 none)),
        (sample_env 1, .next_round_request (sample_request 1 1 none))]).map
      (fun p => acted_rounds (0, ⟨(), 1⟩) p.1) = some [1, 2] := by
    decide
  obtain ⟨⟨trace, self'⟩, h, hacted⟩ := Option.map_eq_some_iff.mp hrounds
  exact ⟨trace, self', h, hacted, acted_rounds_increase h (0, ⟨(), 1⟩)⟩

variable {keys : RoundKeys B T N K Sig}

/-- Over any run whose calls respect the node's keys, every request the node holds stays
    admitted and under its own round. -/
theorem Collected.run {inputs : List (RoundEnv B T S N K Sig Hh P E × AuthorityEvent B T N Sig Hh)}
    {self self' : RoundAuthority B T S N Sig Hh P}
    {trace : List ((RoundEnv B T S N K Sig Hh P E × AuthorityEvent B T N Sig Hh) ×
      AuthorityOutput B N E (NextRoundReject T B P) (ActionLock S P B))}
    (hrespects : ∀ input ∈ inputs, input.1.Respects keys)
    (h : Run.run RoundAuthority.step self inputs = some (trace, self'))
    (hcollected : Collected keys self) : Collected keys self' :=
  Run.run_invariant (Collected keys)
    (fun input hinput _ _ _ hstep hcollected => hcollected.step (hrespects input hinput) hstep)
    h hcollected

/-- Over any run whose calls respect the node's keys, every round the node acted on is, at the
    end of the run, backed by requests signed by a majority of the parent's bk set. -/
theorem acted_on_majority
    {inputs : List (RoundEnv B T S N K Sig Hh P E × AuthorityEvent B T N Sig Hh)}
    {self self' : RoundAuthority B T S N Sig Hh P}
    {trace : List ((RoundEnv B T S N K Sig Hh P E × AuthorityEvent B T N Sig Hh) ×
      AuthorityOutput B N E (NextRoundReject T B P) (ActionLock S P B))}
    (hrespects : ∀ input ∈ inputs, input.1.Respects keys)
    (h : Run.run RoundAuthority.step self inputs = some (trace, self')) :
    ∀ p ∈ trace, ∀ next_round_message, p.1.2 = .next_round_request next_round_message →
      p.2.acts = true → MajorityCollected keys self' next_round_message.round_key := by
  refine Run.run_outputs (fun _ => True)
    (fun input output self => ∀ next_round_message,
      input.2 = .next_round_request next_round_message → output.acts = true →
        MajorityCollected keys self next_round_message.round_key)
    (fun _ _ _ _ _ _ _ => trivial) ?_ ?_ h trivial
  · intro input hinput _ output _ hstep _ next_round_message hevent hacts
    obtain ⟨env, event⟩ := input
    obtain ⟨next_round_message', hevent', -, -, hmajority⟩ := RoundAuthority.step_acts hstep hacts
    cases hevent
    cases hevent'
    exact hmajority.of_respects (hrespects _ hinput)
  · intro input _ _ _ _ _ _ hstep _ hmajority next_round_message hevent hacts
    obtain ⟨env, event⟩ := input
    exact (hmajority next_round_message hevent hacts).of_grows
      (RoundAuthority.step_collecting_grows hstep _)

/-- Accountable safety of the authority switch: when two nodes, with the same bk sets and lock
    scheme, each act on the same round of a height, some keeper of the parent's bk set signed,
    with signatures that check, two requests of that round, one naming each node. -/
theorem acting_nodes_share_a_signer {keys₁ keys₂ : RoundKeys B T N K Sig}
    (hbk_sets : keys₁.descendant_bk_set = keys₂.descendant_bk_set)
    (hlock_bls : keys₁.lock_bls = keys₂.lock_bls)
    {inputs₁ inputs₂ : List (RoundEnv B T S N K Sig Hh P E × AuthorityEvent B T N Sig Hh)}
    {self₁ self₁' self₂ self₂' : RoundAuthority B T S N Sig Hh P}
    {trace₁ trace₂ : List ((RoundEnv B T S N K Sig Hh P E × AuthorityEvent B T N Sig Hh) ×
      AuthorityOutput B N E (NextRoundReject T B P) (ActionLock S P B))}
    (hrespects₁ : ∀ input ∈ inputs₁, input.1.Respects keys₁)
    (hrespects₂ : ∀ input ∈ inputs₂, input.1.Respects keys₂)
    (hcollected₁ : Collected keys₁ self₁) (hcollected₂ : Collected keys₂ self₂)
    (h₁ : Run.run RoundAuthority.step self₁ inputs₁ = some (trace₁, self₁'))
    (h₂ : Run.run RoundAuthority.step self₂ inputs₂ = some (trace₂, self₂'))
    {p₁ p₂ : (RoundEnv B T S N K Sig Hh P E × AuthorityEvent B T N Sig Hh) ×
      AuthorityOutput B N E (NextRoundReject T B P) (ActionLock S P B)}
    (hp₁ : p₁ ∈ trace₁) (hp₂ : p₂ ∈ trace₂)
    {next_round_message₁ next_round_message₂ : NextRound Sig B (BlockHeight T) N Hh}
    (hevent₁ : p₁.1.2 = .next_round_request next_round_message₁)
    (hevent₂ : p₂.1.2 = .next_round_request next_round_message₂)
    (hacts₁ : p₁.2.acts = true) (hacts₂ : p₂.2.acts = true)
    (hround : next_round_message₁.round_key = next_round_message₂.round_key) :
    ∃ bk_set signer_index e₁ e₂,
      keys₁.descendant_bk_set next_round_message₁.lock.parent_block = some bk_set ∧
      (bk_set.get_by_signer signer_index).isSome ∧
      e₁ ∈ self₁'.collecting_next_round next_round_message₁.round_key ∧
      e₂ ∈ self₂'.collecting_next_round next_round_message₁.round_key ∧
      e₁.signers = [signer_index] ∧ e₂.signers = [signer_index] ∧
      e₁.verify_signatures keys₁.lock_bls bk_set.signer_to_pubkey = .ok true ∧
      e₂.verify_signatures keys₁.lock_bls bk_set.signer_to_pubkey = .ok true ∧
      e₁.lock.next_auth_node_id = keys₁.node_identifier ∧
      e₂.lock.next_auth_node_id = keys₂.node_identifier := by
  obtain ⟨bk_set, hbk_set, hcard₁⟩ :=
    acted_on_majority hrespects₁ h₁ p₁ hp₁ next_round_message₁ hevent₁ hacts₁
  obtain ⟨bk_set₂, hbk_set₂, hcard₂⟩ :=
    acted_on_majority hrespects₂ h₂ p₂ hp₂ next_round_message₂ hevent₂ hacts₂
  rw [← hround, ← hbk_sets, hbk_set, Option.some.injEq] at hbk_set₂
  subst hbk_set₂
  rw [← hround] at hcard₂
  have hcollected₁' := hcollected₁.run hrespects₁ h₁
  have hcollected₂' := hcollected₂.run hrespects₂ h₂
  have hbk_set' : keys₂.descendant_bk_set next_round_message₁.round_key.1.1 = some bk_set := by
    rw [← hbk_sets]
    exact hbk_set
  obtain ⟨signer_index, hshared⟩ := Finset.inter_nonempty_of_card_lt_card_add_card
    (hcollected₁'.signers_subset hbk_set) (hcollected₂'.signers_subset hbk_set')
    (by rw [card_keys_toFinset]; omega)
  obtain ⟨e₁, he₁, hsigners₁, hkeeper, hverified₁, hnode₁⟩ :=
    hcollected₁'.mem_signers hbk_set (Finset.mem_inter.mp hshared).1
  obtain ⟨e₂, he₂, hsigners₂, -, hverified₂, hnode₂⟩ :=
    hcollected₂'.mem_signers hbk_set' (Finset.mem_inter.mp hshared).2
  rw [← hlock_bls] at hverified₂
  exact ⟨bk_set, signer_index, e₁, e₂, hbk_set, hkeeper, he₁, he₂, hsigners₁, hsigners₂,
    hverified₁, hverified₂, hnode₁, hnode₂⟩

/-- Nodes `1` and `2` each start producing for round `1` on the one request asking them; keeper
    `0` signed both requests. -/
theorem acting_nodes_share_a_signer_on_sample_runs :
    ∃ output₁ self₁' output₂ self₂',
      Run.run RoundAuthority.step sample_authority
          [(sample_env 1, .next_round_request (sample_request 1 1 none))] =
        some ([((sample_env 1, .next_round_request (sample_request 1 1 none)), output₁)], self₁') ∧
      Run.run RoundAuthority.step sample_authority
          [(sample_env 2, .next_round_request (sample_request 2 1 none))] =
        some ([((sample_env 2, .next_round_request (sample_request 2 1 none)), output₂)], self₂') ∧
      output₁.acts = true ∧ output₂.acts = true ∧
      ∃ bk_set signer_index e₁ e₂,
        (sample_env 1).keys.descendant_bk_set 0 = some bk_set ∧
        (bk_set.get_by_signer signer_index).isSome ∧
        e₁ ∈ self₁'.collecting_next_round ((0, ⟨(), 1⟩), 1) ∧
        e₂ ∈ self₂'.collecting_next_round ((0, ⟨(), 1⟩), 1) ∧
        e₁.signers = [signer_index] ∧ e₂.signers = [signer_index] ∧
        e₁.verify_signatures (sample_env 1).keys.lock_bls bk_set.signer_to_pubkey = .ok true ∧
        e₂.verify_signatures (sample_env 1).keys.lock_bls bk_set.signer_to_pubkey = .ok true ∧
        e₁.lock.next_auth_node_id = (sample_env 1).keys.node_identifier ∧
        e₂.lock.next_auth_node_id = (sample_env 2).keys.node_identifier := by
  have hacts₁ : (sample_authority.step
      (sample_env 1, .next_round_request (sample_request 1 1 none))).map (fun p => p.1.acts) =
      some true := by
    decide
  have hacts₂ : (sample_authority.step
      (sample_env 2, .next_round_request (sample_request 2 1 none))).map (fun p => p.1.acts) =
      some true := by
    decide
  obtain ⟨⟨output₁, self₁'⟩, hstep₁, hacts₁⟩ := Option.map_eq_some_iff.mp hacts₁
  obtain ⟨⟨output₂, self₂'⟩, hstep₂, hacts₂⟩ := Option.map_eq_some_iff.mp hacts₂
  have h₁ : Run.run RoundAuthority.step sample_authority
      [(sample_env 1, .next_round_request (sample_request 1 1 none))] =
      some ([((sample_env 1, .next_round_request (sample_request 1 1 none)), output₁)], self₁') :=
    Run.run_cons.mpr ⟨output₁, self₁', [], hstep₁, Run.run_nil.mpr ⟨rfl, rfl⟩, rfl⟩
  have h₂ : Run.run RoundAuthority.step sample_authority
      [(sample_env 2, .next_round_request (sample_request 2 1 none))] =
      some ([((sample_env 2, .next_round_request (sample_request 2 1 none)), output₂)], self₂') :=
    Run.run_cons.mpr ⟨output₂, self₂', [], hstep₂, Run.run_nil.mpr ⟨rfl, rfl⟩, rfl⟩
  have hrespects₁ : ∀ input ∈ [((sample_env 1, .next_round_request (sample_request 1 1 none)) :
      RoundEnv Nat Unit Unit Nat Unit Unit Unit Unit Unit × AuthorityEvent Nat Unit Nat Unit Unit)],
      input.1.Respects (sample_env 1).keys := by
    intro input hinput
    rw [List.mem_singleton.mp hinput]
    exact RoundEnv.respects_keys _
  have hrespects₂ : ∀ input ∈ [((sample_env 2, .next_round_request (sample_request 2 1 none)) :
      RoundEnv Nat Unit Unit Nat Unit Unit Unit Unit Unit × AuthorityEvent Nat Unit Nat Unit Unit)],
      input.1.Respects (sample_env 2).keys := by
    intro input hinput
    rw [List.mem_singleton.mp hinput]
    exact RoundEnv.respects_keys _
  have hbk_sets : (sample_env 1).keys.descendant_bk_set = (sample_env 2).keys.descendant_bk_set := rfl
  have hlock_bls : (sample_env 1).keys.lock_bls = (sample_env 2).keys.lock_bls := rfl
  exact ⟨output₁, self₁', output₂, self₂', h₁, h₂, hacts₁, hacts₂,
    acting_nodes_share_a_signer hbk_sets hlock_bls hrespects₁ hrespects₂
      (collected_empty _ _ fun _ => rfl) (collected_empty _ _ fun _ => rfl) h₁ h₂
      List.mem_cons_self List.mem_cons_self rfl rfl hacts₁ hacts₂ rfl⟩

end Runs

end ackinacki.protocol.authority_switch
