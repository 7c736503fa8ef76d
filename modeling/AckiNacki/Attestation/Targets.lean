import AckiNacki.Attestation.Collected
import AckiNacki.BlockState.State

namespace ackinacki.node.services.attestations_target

open ackinacki.node.block_state
open ackinacki.types.attestation (Envelope SignerIndex)

variable {Sig B H T : Type} [DecidableEq B]

/-- The signers of envelopes, by attested block and target type (`HashMap` of `HashSet`s). -/
abbrev SignersMap (B : Type) := AList (fun _ : B × AttestationTargetType => Finset SignerIndex)

/-- The key an envelope is grouped under. -/
def attestation_target (attestation : Envelope Sig B H) : B × AttestationTargetType :=
  (attestation.data.block_id, attestation.data.target_type)

/-- The signers of an envelope: the keys of its occurrence map. -/
def attestation_signers (attestation : Envelope Sig B H) : Finset SignerIndex :=
  attestation.signers.toFinset

/-- `AsSignaturesMap::as_signatures_map`: envelopes sharing a key join their signers. -/
def as_signatures_map (attestations : List (Envelope Sig B H)) : SignersMap B :=
  attestations.foldl (fun attestations_map attestation =>
    let key := attestation_target attestation
    match attestations_map.lookup key with
    | some e => attestations_map.insert key (e ∪ attestation_signers attestation)
    | none => attestations_map.insert key (attestation_signers attestation)) ∅

/-- The loop of `verify_all_block_signatures` over the verified envelopes of a block:
    `add_verified_attestations_for` inserts each envelope's signers under its key, replacing
    what an earlier envelope put there. -/
def add_verified_attestations (verified_attestations : SignersMap B)
    (attestations : List (Envelope Sig B H)) : SignersMap B :=
  attestations.foldl (fun verified_attestations attestation =>
    verified_attestations.insert (attestation_target attestation) (attestation_signers attestation))
    verified_attestations

/-- `.into_iter().map(|(k, v)| (k, v.len())).collect()`: the count of signers of every key, in
    the map's order. -/
def signers_count (attestations_map : SignersMap B) : List ((B × AttestationTargetType) × Nat) :=
  attestations_map.entries.map fun entry => (entry.1, entry.2.card)

variable [DecidableEq T]

/-- `evaluate_if_next_block_ancestors_required_attestations_will_be_met`: a block of another
    thread than its parent's meets them; otherwise the parent's checkpoints, one block further,
    must see no failure from the attestations. The block's own checkpoints are not added. -/
def evaluate_if_next_block_ancestors_required_attestations_will_be_met
    (thread_identifier : T) (parent_block_state : AckiNackiBlockState B T)
    (next_block_attestations : SignersMap B) : Except String Bool :=
  match parent_block_state.thread_identifier,
      parent_block_state.ancestor_blocks_finalization_checkpoints with
  | none, _ | _, none => .error "FailedToLoadBlockState"
  | some parent_block_thread_identifier, some ancestor_blocks_finalization_distances_prototype =>
    if thread_identifier ≠ parent_block_thread_identifier then .ok true
    else
      let inherited : AncestorBlocksFinalizationCheckpoints B :=
        ⟨Iterate.map_values (fun _ => inherit_checkpoint)
            ancestor_blocks_finalization_distances_prototype.primary,
          Iterate.map_values (fun _ checkpoint => checkpoint.map inherit_checkpoint)
            ancestor_blocks_finalization_distances_prototype.fallback⟩
      let checkpoint_result := inherited.into_builder.update (signers_count next_block_attestations)
      .ok checkpoint_result.failed.isEmpty

/-- The check of `process_block_attestations`: the checkpoints that failed, from the block's
    verified attestations; a block with one is invalidated. -/
def process_block_attestations (block_state parent_block_state : AckiNackiBlockState B T)
    (verified_attestations : SignersMap B) : Except String (List B) :=
  match update_ancestor_distances parent_block_state block_state
      (signers_count verified_attestations) with
  | .error e => .error e
  | .ok results => .ok results.failed

section Lookup

variable {key : B × AttestationTargetType}

theorem lookup_as_signatures_map_step (attestations_map : SignersMap B)
    (attestation : Envelope Sig B H) :
    (match attestations_map.lookup (attestation_target attestation) with
      | some e => attestations_map.insert (attestation_target attestation)
          (e ∪ attestation_signers attestation)
      | none => attestations_map.insert (attestation_target attestation)
          (attestation_signers attestation)).lookup key =
      if attestation_target attestation = key then
        some ((attestations_map.lookup key).getD ∅ ∪ attestation_signers attestation)
      else attestations_map.lookup key := by
  split <;> split_ifs with hkey
  all_goals first
    | (subst hkey; simp_all)
    | simp [AList.lookup_insert_ne (Ne.symm hkey)]

/-- The signers the producer counts for a key: those of every envelope of the key. -/
theorem mem_as_signatures_map (attestations : List (Envelope Sig B H)) (signer : SignerIndex) :
    signer ∈ ((as_signatures_map attestations).lookup key).getD ∅ ↔
      ∃ attestation ∈ attestations, attestation_target attestation = key ∧
        signer ∈ attestation_signers attestation := by
  suffices h : ∀ (acc : SignersMap B),
      signer ∈ ((attestations.foldl (fun attestations_map attestation =>
          match attestations_map.lookup (attestation_target attestation) with
          | some e => attestations_map.insert (attestation_target attestation)
              (e ∪ attestation_signers attestation)
          | none => attestations_map.insert (attestation_target attestation)
              (attestation_signers attestation)) acc).lookup key).getD ∅ ↔
        signer ∈ (acc.lookup key).getD ∅ ∨
          ∃ attestation ∈ attestations, attestation_target attestation = key ∧
            signer ∈ attestation_signers attestation by
    simpa [as_signatures_map] using h ∅
  induction attestations with
  | nil => simp
  | cons attestation attestations ih =>
    intro acc
    rw [List.foldl_cons, ih, lookup_as_signatures_map_step]
    by_cases hkey : attestation_target attestation = key
    · simp only [hkey, if_true, Option.getD_some, Finset.mem_union, List.exists_mem_cons_iff]
      tauto
    · simp only [hkey, if_false, List.exists_mem_cons_iff, false_and, false_or]

/-- What the receiver keeps for a key: the signers of the last envelope of the key. -/
theorem lookup_add_verified_attestations (verified_attestations : SignersMap B)
    (attestations : List (Envelope Sig B H)) :
    (add_verified_attestations verified_attestations attestations).lookup key =
      match (attestations.filter (attestation_target · = key)).getLast? with
      | some attestation => some (attestation_signers attestation)
      | none => verified_attestations.lookup key := by
  induction attestations generalizing verified_attestations with
  | nil => rfl
  | cons attestation attestations ih =>
    rw [add_verified_attestations, List.foldl_cons, ← add_verified_attestations, ih]
    by_cases hkey : attestation_target attestation = key
    · subst hkey
      cases hlast : (attestations.filter (attestation_target · = attestation_target attestation)).getLast? <;>
        simp [hlast, List.getLast?_cons]
    · simp [hkey, AList.lookup_insert_ne (Ne.symm hkey)]

theorem mem_of_last_verified {attestations : List (Envelope Sig B H)}
    {attestation : Envelope Sig B H}
    (hlast : (attestations.filter (attestation_target · = key)).getLast? = some attestation) :
    attestation ∈ attestations ∧ attestation_target attestation = key := by
  have hmem := List.mem_of_getLast? hlast
  simpa using hmem

/-- The receiver never counts a signer the producer does not. -/
theorem verified_subset_as_signatures_map (attestations : List (Envelope Sig B H)) :
    ((add_verified_attestations ∅ attestations).lookup key).getD ∅ ⊆
      ((as_signatures_map attestations).lookup key).getD ∅ := by
  intro signer hsigner
  rw [lookup_add_verified_attestations] at hsigner
  rw [mem_as_signatures_map]
  split at hsigner
  · next attestation hlast =>
    obtain ⟨hmem, hkey⟩ := mem_of_last_verified hlast
    exact ⟨attestation, hmem, hkey, hsigner⟩
  · simp at hsigner

/-- When no two envelopes share a key, the producer and the receiver count the same signers. -/
theorem verified_eq_as_signatures_map_of_nodup {attestations : List (Envelope Sig B H)}
    (hnodup : (attestations.map attestation_target).Nodup) :
    ((add_verified_attestations ∅ attestations).lookup key).getD ∅ =
      ((as_signatures_map attestations).lookup key).getD ∅ := by
  refine Finset.Subset.antisymm (verified_subset_as_signatures_map attestations) ?_
  intro signer hsigner
  obtain ⟨attestation, hmem, hkey, hsigned⟩ := (mem_as_signatures_map attestations signer).mp hsigner
  rw [lookup_add_verified_attestations]
  split
  · next last hlast =>
    obtain ⟨hlast_mem, hlast_key⟩ := mem_of_last_verified hlast
    have hsame : last = attestation :=
      List.inj_on_of_nodup_map hnodup hlast_mem hmem (hlast_key.trans hkey.symm)
    simpa [hsame] using hsigned
  · next hnone =>
    have hfilter : attestation ∈ attestations.filter (attestation_target · = key) := by
      simpa [hkey] using hmem
    rw [List.getLast?_eq_none_iff] at hnone
    simp [hnone] at hfilter

/-- The signers the receiver counts for a key are among those the producer counts, and are all
    of them when no two envelopes share a key. -/
theorem verified_signers_within_signatures_map (attestations : List (Envelope Sig B H)) :
    ((add_verified_attestations ∅ attestations).lookup key).getD ∅ ⊆
        ((as_signatures_map attestations).lookup key).getD ∅ ∧
      ((attestations.map attestation_target).Nodup →
        ((add_verified_attestations ∅ attestations).lookup key).getD ∅ =
          ((as_signatures_map attestations).lookup key).getD ∅) :=
  ⟨verified_subset_as_signatures_map attestations, verified_eq_as_signatures_map_of_nodup⟩

end Lookup

end ackinacki.node.services.attestations_target

namespace ackinacki.node.services.attestations_target

open ackinacki.node.block_state
open ackinacki.types.attestation (Envelope)

/-- The parent, block `2` of thread `0`, of a block that must meet one checkpoint: block `1`
    needs a fallback attestation of two signers by distance `3`, which its child reaches. -/
def fallback_parent : AckiNackiBlockState Nat Nat :=
  checkpoint_chain_block 2 (some ⟨∅, AList.insert 1 [⟨2, 3, 2, .Fallback⟩] ∅⟩)

/-- Two fallback attestations of block `1`: one by signers `1` and `2`, one by signer `3`. -/
def split_fallback_attestations : List (Envelope Unit Nat Nat) :=
  [⟨(), [(1, 1), (2, 1)], ⟨1, 1, 0, 0, .Fallback⟩⟩, ⟨(), [(3, 1)], ⟨1, 1, 0, 0, .Fallback⟩⟩]

theorem producer_passes_block_receiver_invalidates :
    evaluate_if_next_block_ancestors_required_attestations_will_be_met 0 fallback_parent
        (as_signatures_map split_fallback_attestations) = .ok true ∧
      process_block_attestations (checkpoint_chain_block 3 none) fallback_parent
        (add_verified_attestations ∅ split_fallback_attestations) = .ok [1] := by
  decide

end ackinacki.node.services.attestations_target
