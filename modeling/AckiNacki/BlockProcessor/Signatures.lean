import Mathlib.Data.Finset.Card
import AckiNacki.BlockProcessor.CommonChecks
import AckiNacki.Attestation.Targets
import AckiNacki.Lib.Run

namespace ackinacki.node.services.block_processor

open ackinacki.types (AckiNackiBlock)
open ackinacki.types.attestation (Envelope SignerIndex Occurrences BLSSignatureScheme
  AttestationData)
open ackinacki.node.services.attestations_target (SignersMap attestation_target
  attestation_signers add_verified_attestations)
open ackinacki.node.block_state (AttestationTargetType)
open ackinacki.block_keeper_system (BlockKeeperSet)

/-- `Envelope<GoshBLS, AckiNackiBlock>`: a block with the signatures of its keepers. -/
structure BlockEnvelope (Sig D : Type) where
  aggregated_signature : Sig
  signature_occurrences : Occurrences
  data : D

/-- `BLSSignedEnvelope::verify_signatures`, whose one implementation serves every kind of data:
    the body is the one `Envelope.verify_signatures` has for attestations. -/
def BlockEnvelope.verify_signatures {Sig P D : Type} (bls : BLSSignatureScheme Sig P D)
    (self : BlockEnvelope Sig D) (signers : AList (fun _ : SignerIndex => P)) :
    Except String Bool :=
  let counted := self.signature_occurrences.filter (fun occurrence => occurrence.2 ≠ 0)
  match counted.mapM (fun occurrence => (signers.lookup occurrence.1).map (·, occurrence.2)) with
  | none => .ok false
  | some pubkeys_occurrences =>
    if pubkeys_occurrences.isEmpty then .ok false
    else bls.verify self.aggregated_signature pubkeys_occurrences self.data

/-- The fields of a block state that `verify_all_block_signatures` reads and writes. -/
structure SignatureCheckState (B P N : Type) where
  envelope_block_producer_signature_verified : Option Bool
  bk_set : Option (BlockKeeperSet SignerIndex P N)
  verified_attestations : SignersMap B

/-- The fields of the state of an attested block that the check reads. -/
structure AttestedBlockView (P N H : Type) where
  is_invalidated : Bool
  bk_set : Option (BlockKeeperSet SignerIndex P N)
  envelope_hash : Option H

/-- What one call reads besides the block state: the states of the attested blocks (`none` for
    a block the repository fails to load), and the blocks whose attestations are skipped. -/
structure SignatureCheckEnv (B P N H : Type) where
  attested_block : B → Option (AttestedBlockView P N H)
  skipped_attestation_ids : List B

variable {T N R Sig B H P Blk Cell : Type} [DecidableEq B] [DecidableEq H] [DecidableEq N]
  (bls_block : BLSSignatureScheme Sig P (AckiNackiBlock (CommonSection T N R Sig B H) Blk Cell))
  (bls : BLSSignatureScheme Sig P (AttestationData B H))

/-- The loop over the attestations of the block: the attestations verified, `some none` for its
    early `Some(false)`, and `none` for the panic of a verification that fails to run. -/
def verify_attestations (env : SignatureCheckEnv B P N H)
    (previously_verified_attestations : List (B × AttestationTargetType)) :
    List (Envelope Sig B H) → Option (Option (List (Envelope Sig B H)))
  | [] => some (some [])
  | attestation :: attestations =>
    let rest := verify_attestations env previously_verified_attestations attestations
    if attestation_target attestation ∈ previously_verified_attestations then rest
    else match env.attested_block attestation.data.block_id with
    | none => rest
    | some ancestor_block_state =>
      if attestation.data.block_id ∈ env.skipped_attestation_ids then rest
      else if ancestor_block_state.is_invalidated then rest
      else match ancestor_block_state.envelope_hash with
      | none => rest
      | some envelope_hash =>
        if envelope_hash ≠ attestation.data.envelope_hash then some none
        else match ancestor_block_state.bk_set with
        | none => rest
        | some attestation_signers_map =>
          match attestation.verify_signatures bls attestation_signers_map.signer_to_pubkey with
          | .error _ => none
          | .ok false => some none
          | .ok true => rest.map (·.map (attestation :: ·))

/-- The attestation part of `verify_all_block_signatures`, after the envelope check. The kept
    keys are counted against the attestations, and the verified ones are noted into the block
    state (`add_verified_attestations_for`, whose notification is taken to succeed). -/
def verify_block_attestations (env : SignatureCheckEnv B P N H)
    (candidate_block : BlockEnvelope Sig (AckiNackiBlock (CommonSection T N R Sig B H) Blk Cell))
    (block_state : SignatureCheckState B P N) :
    Option (Option Bool × SignatureCheckState B P N) :=
  let previously_verified_attestations := block_state.verified_attestations.keys
  let block_attestations := candidate_block.data.common_section.block_attestations
  if previously_verified_attestations.length ≠ block_attestations.length then
    match verify_attestations bls env previously_verified_attestations block_attestations with
    | none => none
    | some none => some (some false, block_state)
    | some (some verified_attestations) =>
      some (some true, { block_state with
        verified_attestations :=
          add_verified_attestations block_state.verified_attestations verified_attestations })
  else some (some true, block_state)

/-- `verify_all_block_signatures`: the answer (`none` for `None`) and the block state left;
    the outer `none` is a panic. The signer index of the stated producer is the one its node
    identifier maps to in the bk set, under which its keeper data is stored. -/
def verify_all_block_signatures (env : SignatureCheckEnv B P N H)
    (candidate_block : BlockEnvelope Sig (AckiNackiBlock (CommonSection T N R Sig B H) Blk Cell))
    (block_state : SignatureCheckState B P N) :
    Option (Option Bool × SignatureCheckState B P N) :=
  match block_state.envelope_block_producer_signature_verified with
  | some false => some (some false, block_state)
  | some true => verify_block_attestations bls env candidate_block block_state
  | none =>
    match block_state.bk_set with
    | none => some (none, block_state)
    | some bk_set =>
      match candidate_block.verify_signatures bls_block bk_set.signer_to_pubkey with
      | .error _ => none
      | .ok is_valid =>
        let stated_producer_id := candidate_block.data.common_section.producer_id
        match bk_set.get_by_node_id stated_producer_id,
            bk_set.signer_by_node_id.lookup stated_producer_id with
        | some _, some signer_index =>
          if candidate_block.signature_occurrences.count signer_index = 0 then
            some (some false, block_state)
          else
            let block_state :=
              { block_state with envelope_block_producer_signature_verified := some is_valid }
            if !is_valid then some (some false, block_state)
            else verify_block_attestations bls env candidate_block block_state
        | _, _ => some (some false, block_state)

section Loop

variable (env : SignatureCheckEnv B P N H)

/-- The loop checks the attestations of `block_id`: the block is known, neither skipped nor
    invalidated, and has its envelope hash and bk set. -/
def Checkable (block_id : B) : Prop :=
  ∃ ancestor_block_state, env.attested_block block_id = some ancestor_block_state ∧
    block_id ∉ env.skipped_attestation_ids ∧ ancestor_block_state.is_invalidated = false ∧
    ancestor_block_state.envelope_hash.isSome ∧ ancestor_block_state.bk_set.isSome

/-- An attestation passes the check against the state of its block: it carries the block's
    envelope hash, and its signatures verify under the block's bk set. -/
def Checked (attestation : Envelope Sig B H) : Prop :=
  ∃ ancestor_block_state bk_set,
    env.attested_block attestation.data.block_id = some ancestor_block_state ∧
    ancestor_block_state.envelope_hash = some attestation.data.envelope_hash ∧
    ancestor_block_state.bk_set = some bk_set ∧
    attestation.verify_signatures bls bk_set.signer_to_pubkey = .ok true

/-- What the loop yields, for the keys kept before: the attestations it verified, in order,
    each checked and of a key not kept, and among them every attestation of a key not kept
    whose block it checks. -/
structure LoopVerified (previously_verified_attestations : List (B × AttestationTargetType))
    (attestations verified_attestations : List (Envelope Sig B H)) : Prop where
  sublist : verified_attestations.Sublist attestations
  checked : ∀ attestation ∈ verified_attestations, Checked bls env attestation ∧
    Checkable env attestation.data.block_id ∧
    attestation_target attestation ∉ previously_verified_attestations
  complete : ∀ attestation ∈ attestations,
    attestation_target attestation ∉ previously_verified_attestations →
    Checkable env attestation.data.block_id → attestation ∈ verified_attestations

variable {bls env}

omit [DecidableEq B] [DecidableEq H] [DecidableEq N] in
/-- Of a known block, the loop checks the attestations when it is neither skipped nor
    invalidated and has its envelope hash and bk set. -/
theorem checkable_iff {block_id : B} {ancestor_block_state : AttestedBlockView P N H}
    (hancestor : env.attested_block block_id = some ancestor_block_state) :
    Checkable env block_id ↔ block_id ∉ env.skipped_attestation_ids ∧
      ancestor_block_state.is_invalidated = false ∧ ancestor_block_state.envelope_hash.isSome ∧
      ancestor_block_state.bk_set.isSome := by
  simp [Checkable, hancestor]

variable {previously_verified_attestations : List (B × AttestationTargetType)}
  {attestation : Envelope Sig B H} {attestations verified_attestations : List (Envelope Sig B H)}

omit [DecidableEq B] [DecidableEq H] [DecidableEq N] in
theorem LoopVerified.nil : LoopVerified bls env previously_verified_attestations [] [] :=
  ⟨List.Sublist.slnil, by simp, by simp⟩

omit [DecidableEq B] [DecidableEq H] [DecidableEq N] in
/-- An attestation of a kept key, or of a block not checked, is passed over. -/
theorem LoopVerified.pass
    (hpass : attestation_target attestation ∈ previously_verified_attestations ∨
      ¬Checkable env attestation.data.block_id)
    (h : LoopVerified bls env previously_verified_attestations attestations
      verified_attestations) :
    LoopVerified bls env previously_verified_attestations (attestation :: attestations)
      verified_attestations where
  sublist := h.sublist.cons attestation
  checked := h.checked
  complete := by
    intro a ha hnew hcheckable
    rcases List.mem_cons.mp ha with rfl | ha
    · rcases hpass with hkept | hnot
      · exact absurd hkept hnew
      · exact absurd hcheckable hnot
    · exact h.complete a ha hnew hcheckable

omit [DecidableEq B] [DecidableEq H] [DecidableEq N] in
/-- An attestation checked is kept in the verified ones. -/
theorem LoopVerified.check (hchecked : Checked bls env attestation)
    (hcheckable : Checkable env attestation.data.block_id)
    (hnew : attestation_target attestation ∉ previously_verified_attestations)
    (h : LoopVerified bls env previously_verified_attestations attestations
      verified_attestations) :
    LoopVerified bls env previously_verified_attestations (attestation :: attestations)
      (attestation :: verified_attestations) where
  sublist := h.sublist.cons_cons attestation
  checked := by
    intro a ha
    rcases List.mem_cons.mp ha with rfl | ha
    · exact ⟨hchecked, hcheckable, hnew⟩
    · exact h.checked a ha
  complete := by
    intro a ha hnew' hcheckable'
    rcases List.mem_cons.mp ha with rfl | ha
    · exact List.mem_cons_self
    · exact List.mem_cons_of_mem _ (h.complete a ha hnew' hcheckable')

omit [DecidableEq N] in
/-- The loop, when it runs to its end, yields the attestations it verified. -/
theorem verify_attestations_spec :
    ∀ {attestations verified_attestations : List (Envelope Sig B H)},
      verify_attestations bls env previously_verified_attestations attestations =
          some (some verified_attestations) →
        LoopVerified bls env previously_verified_attestations attestations verified_attestations
  | [], _, h => by
    cases h
    exact LoopVerified.nil
  | attestation :: attestations, verified_attestations, h => by
    rw [verify_attestations] at h
    by_cases hkept : attestation_target attestation ∈ previously_verified_attestations
    · rw [if_pos hkept] at h
      exact (verify_attestations_spec h).pass (Or.inl hkept)
    rw [if_neg hkept] at h
    split at h
    · rename_i hunknown
      refine (verify_attestations_spec h).pass (Or.inr ?_)
      rintro ⟨ancestor_block_state, hancestor, -⟩
      simp [hunknown] at hancestor
    rename_i ancestor_block_state hancestor
    have hpass (hnot : ¬(attestation.data.block_id ∉ env.skipped_attestation_ids ∧
        ancestor_block_state.is_invalidated = false ∧ ancestor_block_state.envelope_hash.isSome ∧
        ancestor_block_state.bk_set.isSome))
        (hrest : verify_attestations bls env previously_verified_attestations attestations =
          some (some verified_attestations)) :=
      (verify_attestations_spec hrest).pass (Or.inr ((checkable_iff hancestor).not.mpr hnot))
    by_cases hskipped : attestation.data.block_id ∈ env.skipped_attestation_ids
    · rw [if_pos hskipped] at h
      exact hpass (by simp [hskipped]) h
    rw [if_neg hskipped] at h
    by_cases hinvalidated : ancestor_block_state.is_invalidated
    · rw [if_pos hinvalidated] at h
      exact hpass (by simp [hinvalidated]) h
    rw [if_neg hinvalidated] at h
    split at h
    · rename_i hno_hash
      exact hpass (by simp [hno_hash]) h
    rename_i envelope_hash hhash
    by_cases hmismatch : envelope_hash ≠ attestation.data.envelope_hash
    · rw [if_pos hmismatch] at h
      cases h
    rw [if_neg hmismatch] at h
    split at h
    · rename_i hno_bk_set
      exact hpass (by simp [hno_bk_set]) h
    rename_i bk_set hbk_set
    split at h
    · cases h
    · cases h
    · rename_i hverified
      obtain ⟨rest, hrest, hcons⟩ := Option.map_eq_some_iff.mp h
      obtain ⟨verified_rest, rfl, rfl⟩ := Option.map_eq_some_iff.mp hcons
      refine (verify_attestations_spec hrest).check ?_ ?_ hkept
      · exact ⟨ancestor_block_state, bk_set, hancestor, by rw [hhash, not_not.mp hmismatch],
          hbk_set, hverified⟩
      · exact (checkable_iff hancestor).mpr ⟨hskipped, by simpa using hinvalidated,
          by simp [hhash], by simp [hbk_set]⟩

end Loop

section Kept

omit [DecidableEq H] [DecidableEq N] in
/-- The keys noted are the keys kept before and those of the attestations noted. -/
theorem mem_keys_add_verified_attestations {key : B × AttestationTargetType} :
    ∀ {verified_attestations : SignersMap B} {attestations : List (Envelope Sig B H)},
      key ∈ (add_verified_attestations verified_attestations attestations).keys ↔
        key ∈ verified_attestations.keys ∨
          ∃ attestation ∈ attestations, attestation_target attestation = key
  | _, [] => by simp [add_verified_attestations]
  | verified_attestations, attestation :: attestations => by
    rw [add_verified_attestations, List.foldl_cons, ← add_verified_attestations,
      mem_keys_add_verified_attestations, ← AList.mem_keys, AList.mem_insert, AList.mem_keys]
    simp only [List.exists_mem_cons_iff, eq_comm (a := key)]
    tauto

omit [DecidableEq B] [DecidableEq H] [DecidableEq N] in
/-- Distinct keys, each the key of one of the attestations and as many as they are, are the
    keys of all of them. -/
theorem mem_of_length_eq {α β : Type} [DecidableEq α] {keys : List α} {f : β → α}
    {l : List β} (hnodup : keys.Nodup) (hkeys : ∀ k ∈ keys, ∃ b ∈ l, f b = k)
    (hlength : keys.length = l.length) : ∀ b ∈ l, f b ∈ keys := by
  have hsub : keys.toFinset ⊆ (l.map f).toFinset := by
    intro k hk
    obtain ⟨b, hb, rfl⟩ := hkeys k (List.mem_toFinset.mp hk)
    exact List.mem_toFinset.mpr (List.mem_map_of_mem hb)
  have hcard : (l.map f).toFinset.card ≤ keys.toFinset.card :=
    calc (l.map f).toFinset.card ≤ (l.map f).length := List.toFinset_card_le _
      _ = keys.length := by rw [List.length_map, hlength]
      _ = keys.toFinset.card := (List.toFinset_card_of_nodup hnodup).symm
  have hsame := Finset.eq_of_subset_of_card_le hsub hcard
  intro b hb
  have hmem : f b ∈ (l.map f).toFinset := List.mem_toFinset.mpr (List.mem_map_of_mem hb)
  rw [← hsame] at hmem
  exact List.mem_toFinset.mp hmem

/-- What the kept keys say of the calls made so far, `history`: each is the key of an
    attestation of the block, and every attestation of a kept key was checked by one of them. -/
structure KeptChecked (history : List (SignatureCheckEnv B P N H))
    (attestations : List (Envelope Sig B H)) (verified_attestations : SignersMap B) : Prop where
  kept_attestation : ∀ key ∈ verified_attestations.keys,
    ∃ attestation ∈ attestations, attestation_target attestation = key
  kept_checked : ∀ attestation ∈ attestations,
    attestation_target attestation ∈ verified_attestations.keys →
      ∃ env ∈ history, Checked bls env attestation

variable {bls} {env : SignatureCheckEnv B P N H} {history : List (SignatureCheckEnv B P N H)}
  {attestations : List (Envelope Sig B H)} {verified_attestations : SignersMap B}

omit [DecidableEq B] [DecidableEq H] [DecidableEq N] in
theorem KeptChecked.empty :
    KeptChecked bls ([] : List (SignatureCheckEnv B P N H)) attestations ∅ :=
  ⟨by simp, by simp⟩

omit [DecidableEq B] [DecidableEq H] [DecidableEq N] in
theorem KeptChecked.append (h : KeptChecked bls history attestations verified_attestations) :
    KeptChecked bls (history ++ [env]) attestations verified_attestations :=
  ⟨h.kept_attestation, fun attestation hattestation hkey => by
    obtain ⟨env', henv', hchecked⟩ := h.kept_checked attestation hattestation hkey
    exact ⟨env', List.mem_append_left _ henv', hchecked⟩⟩

omit [DecidableEq H] [DecidableEq N] in
/-- Noting the attestations the loop verified keeps what the kept keys say. -/
theorem KeptChecked.add {verified : List (Envelope Sig B H)}
    (h : KeptChecked bls history attestations verified_attestations)
    (hloop : LoopVerified bls env verified_attestations.keys attestations verified) :
    KeptChecked bls (history ++ [env]) attestations
      (add_verified_attestations verified_attestations verified) where
  kept_attestation := by
    intro key hkey
    rcases mem_keys_add_verified_attestations.mp hkey with hkept | ⟨attestation, hverified, rfl⟩
    · exact h.kept_attestation key hkept
    · exact ⟨attestation, hloop.sublist.subset hverified, rfl⟩
  kept_checked := by
    intro attestation hattestation hkey
    rcases mem_keys_add_verified_attestations.mp hkey with hkept | ⟨noted, hnoted, hsame⟩
    · exact h.append.kept_checked attestation hattestation hkept
    obtain ⟨-, hcheckable, hnew⟩ := hloop.checked noted hnoted
    have hblock : noted.data.block_id = attestation.data.block_id := congrArg Prod.fst hsame
    have hverified := hloop.complete attestation hattestation (hsame ▸ hnew) (hblock ▸ hcheckable)
    exact ⟨env, List.mem_append_right _ List.mem_cons_self, (hloop.checked _ hverified).1⟩

omit [DecidableEq H] [DecidableEq N] in
/-- As many kept keys as attestations: every attestation was checked. -/
theorem KeptChecked.all_checked (h : KeptChecked bls history attestations verified_attestations)
    (hlength : verified_attestations.keys.length = attestations.length) :
    ∀ attestation ∈ attestations, ∃ env ∈ history, Checked bls env attestation :=
  fun attestation hattestation => h.kept_checked attestation hattestation
    (mem_of_length_eq verified_attestations.keys_nodup h.kept_attestation hlength attestation
      hattestation)

end Kept

/-- The envelope check passed under `bk_set`: the keepers' signatures verify, and the producer
    the common section states is a keeper who signed. -/
structure EnvelopeVerified
    (candidate_block : BlockEnvelope Sig (AckiNackiBlock (CommonSection T N R Sig B H) Blk Cell))
    (bk_set : BlockKeeperSet SignerIndex P N) : Prop where
  signatures_valid : candidate_block.verify_signatures bls_block bk_set.signer_to_pubkey = .ok true
  producer_signed : ∃ signer_index,
    (bk_set.get_by_node_id candidate_block.data.common_section.producer_id).isSome ∧
    bk_set.signer_by_node_id.lookup candidate_block.data.common_section.producer_id =
      some signer_index ∧
    candidate_block.signature_occurrences.count signer_index ≠ 0

section Call

variable {bls_block bls} {env : SignatureCheckEnv B P N H}
  {history : List (SignatureCheckEnv B P N H)}
  {candidate_block : BlockEnvelope Sig (AckiNackiBlock (CommonSection T N R Sig B H) Blk Cell)}
  {block_state block_state' : SignatureCheckState B P N} {answer : Option Bool}

omit [DecidableEq N] in
/-- The three ways the attestation part ends: the shortcut of a full count, the early
    `Some(false)`, and the loop run to its end, whose attestations are noted. -/
theorem verify_block_attestations_cases
    (h : verify_block_attestations bls env candidate_block block_state =
      some (answer, block_state')) :
    (block_state.verified_attestations.keys.length =
        candidate_block.data.common_section.block_attestations.length ∧
      answer = some true ∧ block_state' = block_state) ∨
    (answer = some false ∧ block_state' = block_state) ∨
    ∃ verified, LoopVerified bls env block_state.verified_attestations.keys
        candidate_block.data.common_section.block_attestations verified ∧
      answer = some true ∧
      block_state' = { block_state with
        verified_attestations :=
          add_verified_attestations block_state.verified_attestations verified } := by
  unfold verify_block_attestations at h
  by_cases hcount : block_state.verified_attestations.keys.length ≠
      candidate_block.data.common_section.block_attestations.length
  · rw [if_pos hcount] at h
    split at h
    · cases h
    · cases h
      exact Or.inr (Or.inl ⟨rfl, rfl⟩)
    · rename_i verified_attestations hloop
      cases h
      exact Or.inr (Or.inr ⟨verified_attestations, verify_attestations_spec hloop, rfl, rfl⟩)
  · rw [if_neg hcount] at h
    cases h
    exact Or.inl ⟨not_not.mp hcount, rfl, rfl⟩

omit [DecidableEq N] in
/-- The attestation part writes only the kept keys. -/
theorem verify_block_attestations_frame
    (h : verify_block_attestations bls env candidate_block block_state =
      some (answer, block_state')) :
    block_state'.envelope_block_producer_signature_verified =
        block_state.envelope_block_producer_signature_verified ∧
      block_state'.bk_set = block_state.bk_set := by
  rcases verify_block_attestations_cases h with ⟨-, -, rfl⟩ | ⟨-, rfl⟩ | ⟨verified, -, -, rfl⟩ <;>
    exact ⟨rfl, rfl⟩

omit [DecidableEq N] in
/-- The attestation part keeps what the kept keys say. -/
theorem KeptChecked.verify_block_attestations
    (h : verify_block_attestations bls env candidate_block block_state =
      some (answer, block_state'))
    (hkept : KeptChecked bls history candidate_block.data.common_section.block_attestations
      block_state.verified_attestations) :
    KeptChecked bls (history ++ [env]) candidate_block.data.common_section.block_attestations
      block_state'.verified_attestations := by
  rcases verify_block_attestations_cases h with ⟨-, -, rfl⟩ | ⟨-, rfl⟩ | ⟨verified, hloop, -, rfl⟩
  · exact hkept.append
  · exact hkept.append
  · exact hkept.add hloop

omit [DecidableEq N] in
/-- The attestation part answers `Some(true)` only when every attestation of the block was
    checked by this call or an earlier one, or is passed over by this call. -/
theorem verify_block_attestations_true
    (h : verify_block_attestations bls env candidate_block block_state =
      some (some true, block_state'))
    (hkept : KeptChecked bls history candidate_block.data.common_section.block_attestations
      block_state.verified_attestations) :
    ∀ attestation ∈ candidate_block.data.common_section.block_attestations,
      ¬Checkable env attestation.data.block_id ∨
        ∃ env' ∈ history ++ [env], Checked bls env' attestation := by
  intro attestation hattestation
  rcases verify_block_attestations_cases h with ⟨hlength, -, -⟩ | ⟨hfalse, -⟩ |
      ⟨verified, hloop, -, -⟩
  · exact Or.inr (hkept.append.all_checked hlength attestation hattestation)
  · cases hfalse
  · by_cases hkey : attestation_target attestation ∈ block_state.verified_attestations.keys
    · exact Or.inr (hkept.append.kept_checked attestation hattestation hkey)
    by_cases hcheckable : Checkable env attestation.data.block_id
    · have hverified := hloop.complete attestation hattestation hkey hcheckable
      exact Or.inr ⟨env, List.mem_append_right _ List.mem_cons_self,
        (hloop.checked attestation hverified).1⟩
    · exact Or.inl hcheckable

/-- The four ways a call ends: an answer other than `Some(true)` with the state as it was; the
    envelope found invalid, which is kept; or the attestation part, after an envelope check
    kept from before or made now and passed. -/
theorem verify_all_block_signatures_cases
    (h : verify_all_block_signatures bls_block bls env candidate_block block_state =
      some (answer, block_state')) :
    (answer ≠ some true ∧ block_state' = block_state) ∨
    (block_state.envelope_block_producer_signature_verified = none ∧ answer = some false ∧
      block_state' =
        { block_state with envelope_block_producer_signature_verified := some false }) ∨
    (block_state.envelope_block_producer_signature_verified = some true ∧
      verify_block_attestations bls env candidate_block block_state =
        some (answer, block_state')) ∨
    (block_state.envelope_block_producer_signature_verified = none ∧
      (∃ bk_set, block_state.bk_set = some bk_set ∧
        EnvelopeVerified bls_block candidate_block bk_set) ∧
      verify_block_attestations bls env candidate_block
        { block_state with envelope_block_producer_signature_verified := some true } =
        some (answer, block_state')) := by
  unfold verify_all_block_signatures at h
  split at h
  · rename_i hfalse
    cases h
    exact Or.inl ⟨by simp, rfl⟩
  · rename_i htrue
    exact Or.inr (Or.inr (Or.inl ⟨htrue, h⟩))
  rename_i hnone
  split at h
  · cases h
    exact Or.inl ⟨by simp, rfl⟩
  rename_i bk_set hbk_set
  split at h
  · cases h
  rename_i is_valid hvalid
  dsimp only at h
  split at h
  · rename_i keeper signer_index hkeeper hsigner
    by_cases hcount : candidate_block.signature_occurrences.count signer_index = 0
    · rw [if_pos hcount] at h
      cases h
      exact Or.inl ⟨by simp, rfl⟩
    rw [if_neg hcount] at h
    cases is_valid with
    | false =>
      cases h
      exact Or.inr (Or.inl ⟨hnone, rfl, rfl⟩)
    | true =>
      refine Or.inr (Or.inr (Or.inr ⟨hnone, ⟨bk_set, hbk_set, hvalid, ?_⟩, h⟩))
      exact ⟨signer_index, by simp [hkeeper], hsigner, hcount⟩
  · cases h
    exact Or.inl ⟨by simp, rfl⟩

end Call

section Run

variable (candidate_block :
  BlockEnvelope Sig (AckiNackiBlock (CommonSection T N R Sig B H) Blk Cell))

/-- What the block state keeps of the calls made so far on the candidate, `history`: the
    envelope check it holds as passed did pass under its bk set, and its kept keys say what
    `KeptChecked` says. -/
structure SignaturesSound (history : List (SignatureCheckEnv B P N H))
    (block_state : SignatureCheckState B P N) : Prop where
  envelope_verified : block_state.envelope_block_producer_signature_verified = some true →
    ∃ bk_set, block_state.bk_set = some bk_set ∧ EnvelopeVerified bls_block candidate_block bk_set
  kept : KeptChecked bls history candidate_block.data.common_section.block_attestations
    block_state.verified_attestations

variable {bls_block bls candidate_block} {env : SignatureCheckEnv B P N H}
  {history : List (SignatureCheckEnv B P N H)}
  {block_state block_state' : SignatureCheckState B P N}
  {answer : Option Bool}

omit [DecidableEq B] [DecidableEq H] in
/-- A block state whose checks have not started. -/
theorem SignaturesSound.start (bk_set : Option (BlockKeeperSet SignerIndex P N)) :
    SignaturesSound bls_block bls candidate_block [] ⟨none, bk_set, ∅⟩ :=
  ⟨by simp, KeptChecked.empty⟩

/-- A call never changes the bk set of the block state. -/
theorem verify_all_block_signatures_bk_set
    (h : verify_all_block_signatures bls_block bls env candidate_block block_state =
      some (answer, block_state')) :
    block_state'.bk_set = block_state.bk_set := by
  rcases verify_all_block_signatures_cases h with ⟨-, rfl⟩ | ⟨-, -, rfl⟩ |
      ⟨-, hattestations⟩ | ⟨-, -, hattestations⟩
  · rfl
  · rfl
  · exact (verify_block_attestations_frame hattestations).2
  · exact (verify_block_attestations_frame hattestations).2

/-- Every call keeps what the block state says of the calls made so far. -/
theorem SignaturesSound.step
    (hsound : SignaturesSound bls_block bls candidate_block history block_state)
    (h : verify_all_block_signatures bls_block bls env candidate_block block_state =
      some (answer, block_state')) :
    SignaturesSound bls_block bls candidate_block (history ++ [env]) block_state' := by
  rcases verify_all_block_signatures_cases h with ⟨-, rfl⟩ | ⟨-, -, rfl⟩ |
      ⟨-, hattestations⟩ | ⟨-, hverified, hattestations⟩
  · exact ⟨hsound.envelope_verified, hsound.kept.append⟩
  · exact ⟨by simp, hsound.kept.append⟩
  · obtain ⟨hcache, hbk_set⟩ := verify_block_attestations_frame hattestations
    exact ⟨by rw [hcache, hbk_set]; exact hsound.envelope_verified,
      hsound.kept.verify_block_attestations hattestations⟩
  · obtain ⟨-, hbk_set⟩ := verify_block_attestations_frame hattestations
    exact ⟨fun _ => hbk_set ▸ hverified, hsound.kept.verify_block_attestations hattestations⟩

/-- A call answers `Some(true)` only for a block whose envelope check passed under the bk set
    of its state, each of whose attestations was checked by this call or an earlier one, or is
    passed over by this call. -/
theorem SignaturesSound.answer_true
    (hsound : SignaturesSound bls_block bls candidate_block history block_state)
    (h : verify_all_block_signatures bls_block bls env candidate_block block_state =
      some (some true, block_state')) :
    (∃ bk_set, block_state.bk_set = some bk_set ∧
        EnvelopeVerified bls_block candidate_block bk_set) ∧
      ∀ attestation ∈ candidate_block.data.common_section.block_attestations,
        ¬Checkable env attestation.data.block_id ∨
          ∃ env' ∈ history ++ [env], Checked bls env' attestation := by
  rcases verify_all_block_signatures_cases h with ⟨hne, -⟩ | ⟨-, hfalse, -⟩ |
      ⟨hcache, hattestations⟩ | ⟨-, hverified, hattestations⟩
  · exact absurd rfl hne
  · cases hfalse
  · exact ⟨hsound.envelope_verified hcache,
      verify_block_attestations_true hattestations hsound.kept⟩
  · exact ⟨hverified, verify_block_attestations_true hattestations hsound.kept⟩

end Run

/-- A scheme under which every signature verifies. -/
def accept_all {D : Type} : BLSSignatureScheme Unit Nat D :=
  ⟨fun _ _ _ => .ok true, fun _ _ => .ok (), fun _ => .ok ()⟩

/-- The keeper `0`, whose node is `7`. -/
def sample_bk_set : BlockKeeperSet SignerIndex Nat Nat :=
  (BlockKeeperSet.new : BlockKeeperSet SignerIndex Nat Nat).insert 0 ⟨0, 7⟩

/-- An attestation of block `3` by the keeper `0`. -/
def sample_attestation : Envelope Unit Nat Nat :=
  ⟨(), [(0, 1)], ⟨3, 2, 2, 9, .Primary⟩⟩

/-- A block produced by node `7`, signed by its keeper, that carries `sample_attestation`. -/
def sample_candidate :
    BlockEnvelope Unit (AckiNackiBlock (CommonSection Nat Nat Nat Unit Nat Nat) Nat Unit) :=
  ⟨(), [(0, 1)], ⟨⟨0, ⟨0, 1⟩, 7, none, [sample_attestation]⟩, 5, 0, Vector.replicate 32 0, none,
    none⟩⟩

/-- The attested block before its envelope hash is set, and after. -/
def pending_env : SignatureCheckEnv Nat Nat Nat Nat :=
  ⟨fun _ => some ⟨false, some sample_bk_set, none⟩, []⟩

def ready_env : SignatureCheckEnv Nat Nat Nat Nat :=
  ⟨fun _ => some ⟨false, some sample_bk_set, some 9⟩, []⟩

end ackinacki.node.services.block_processor
