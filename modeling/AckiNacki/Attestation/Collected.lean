import Mathlib.Algebra.BigOperators.Group.List.Basic
import Mathlib.Data.Finset.Card
import Mathlib.Algebra.GroupWithZero.Nat
import AckiNacki.BlockKeeper.KeeperSet
import AckiNacki.BlockState.Checkpoints

namespace ackinacki.types.attestation

open ackinacki.node.block_state (AttestationTargetType)
open ackinacki.block_keeper_system (BlockKeeperSet)

/-- `SignerIndex` is a `u16`. -/
abbrev SignerIndex := Nat

/-- `AttestationData`: what an attestation signs. -/
structure AttestationData (I H : Type) where
  block_id : I
  block_seq_no : Nat
  parent_block_id : I
  envelope_hash : H
  target_type : AttestationTargetType
  deriving DecidableEq

/-- How many times each signer's signature is in an aggregate, sorted by signer. -/
abbrev Occurrences := List (SignerIndex × Nat)

/-- How many times `signer` signed, `0` when it is absent. -/
def Occurrences.count (self : Occurrences) (signer : SignerIndex) : Nat :=
  (self.lookup signer).getD 0

/-- `BLSSignatureScheme` with `GoshBLS::merge_all`, for signatures `Sig`, public keys `P` and
    signed data `D`. -/
structure BLSSignatureScheme (Sig P D : Type) where
  verify : Sig → List (P × Nat) → D → Except String Bool
  merge : Sig → Sig → Except String Sig
  merge_all : List Sig → Except String Sig

/-- `Envelope<GoshBLS, AttestationData>`. -/
structure Envelope (Sig I H : Type) where
  aggregated_signature : Sig
  signature_occurrences : Occurrences
  data : AttestationData I H
  deriving DecidableEq

namespace Envelope

variable {Sig P I H : Type}

def create (aggregated_signature : Sig) (signature_occurrences : Occurrences)
    (data : AttestationData I H) : Envelope Sig I H :=
  ⟨aggregated_signature, signature_occurrences, data⟩

def signers (self : Envelope Sig I H) : List SignerIndex := self.signature_occurrences.map (·.1)

def signatures_count (self : Envelope Sig I H) : Nat := self.signature_occurrences.length

/-- `verify_signatures`: a signer with count `0` is skipped, an unknown signer fails the check,
    and so does an envelope with no signature at all. -/
def verify_signatures (bls : BLSSignatureScheme Sig P (AttestationData I H))
    (self : Envelope Sig I H) (signers : AList (fun _ : SignerIndex => P)) : Except String Bool :=
  let counted := self.signature_occurrences.filter (fun occurrence => occurrence.2 ≠ 0)
  match counted.mapM (fun occurrence => (signers.lookup occurrence.1).map (·, occurrence.2)) with
  | none => .ok false
  | some pubkeys_occurrences =>
    if pubkeys_occurrences.isEmpty then .ok false
    else bls.verify self.aggregated_signature pubkeys_occurrences self.data

end Envelope

/-- `entry(signer).and_modify(|e| *e += count).or_insert(count)` on an occurrence map. -/
def add_occurrence : Occurrences → SignerIndex × Nat → Option Occurrences
  | [], (signer, count) => some [(signer, count)]
  | (k, v) :: rest, (signer, count) =>
    if signer < k then some ((signer, count) :: (k, v) :: rest)
    else if signer = k then
      if v + count < 2 ^ 16 then some ((k, v + count) :: rest) else none
    else ((k, v) :: ·) <$> add_occurrence rest (signer, count)

/-- The loop that adds every count of `more` into `acc`. -/
def add_occurrences (acc more : Occurrences) : Option Occurrences :=
  more.foldlM add_occurrence acc

/-- `CompactedAttestation`: an attestation without what its key already says. -/
structure CompactedAttestation (Sig I H : Type) where
  parent_block_id : I
  envelope_hash : H
  aggregated_signature : Sig
  signature_occurrences : Occurrences
  target_type : AttestationTargetType
  deriving DecidableEq

namespace CompactedAttestation

variable {Sig I H : Type}

def signers (self : CompactedAttestation Sig I H) : List SignerIndex :=
  self.signature_occurrences.map (·.1)

/-- `From<&Envelope<GoshBLS, AttestationData>>`. -/
def «from» (value : Envelope Sig I H) : CompactedAttestation Sig I H :=
  ⟨value.data.parent_block_id, value.data.envelope_hash, value.aggregated_signature,
    value.signature_occurrences, value.data.target_type⟩

end CompactedAttestation

/-- `CompactedMapKey`. -/
structure CompactedMapKey (I : Type) where
  block_seq_no : Nat
  block_identifier : I
  attestation_target_type : AttestationTargetType
  deriving DecidableEq

/-- `TryFoldResult`. -/
structure TryFoldResult (Sig I H : Type) where
  folded : Option (Envelope Sig I H)
  poisoned : List (Envelope Sig I H)

section Fold

variable {Sig P N I H : Type} (bls : BLSSignatureScheme Sig P (AttestationData I H))

/-- `try_fold_all_optimistic`: all counts added up, all signatures merged, and the result
    checked once; the outer `none` is the overflow panic. -/
def try_fold_all_optimistic (attestation_data : AttestationData I H)
    (to_combine : List (Occurrences × Sig)) (bk_set : BlockKeeperSet SignerIndex P N) :
    Option (Option (Envelope Sig I H)) := do
  let aggregated_signature_occurences ← to_combine.foldlM
    (fun acc part => add_occurrences acc part.1) []
  let signatures := to_combine.map (·.2)
  match bls.merge_all signatures with
  | .error _ => pure none
  | .ok aggregated_signature =>
    let envelope := Envelope.create aggregated_signature aggregated_signature_occurences
      attestation_data
    match envelope.verify_signatures bls bk_set.signer_to_pubkey with
    | .ok true => pure (some envelope)
    | _ => pure none

/-- One step of `try_fold_one_by_one_checked`: a part that verifies is merged into the fold, one
    that does not, or whose merge fails, is poisoned. -/
def fold_one_checked (attestation_data : AttestationData I H)
    (bk_set : BlockKeeperSet SignerIndex P N) (result : TryFoldResult Sig I H)
    (part : Occurrences × Sig) : Option (TryFoldResult Sig I H) :=
  let (signature_occurences, signature) := part
  let envelope := Envelope.create signature signature_occurences attestation_data
  match envelope.verify_signatures bls bk_set.signer_to_pubkey with
  | .ok true =>
    match result.folded with
    | some e =>
      match bls.merge e.aggregated_signature signature with
      | .error _ => some { result with poisoned := result.poisoned ++ [envelope] }
      | .ok aggregated_signature => do
        let aggregated_signature_occurences ←
          add_occurrences e.signature_occurrences signature_occurences
        pure { result with
          folded := some (Envelope.create aggregated_signature aggregated_signature_occurences
            attestation_data) }
    | none => some { result with folded := some envelope }
  | _ => some { result with poisoned := result.poisoned ++ [envelope] }

def try_fold_one_by_one_checked (attestation_data : AttestationData I H)
    (to_combine : List (Occurrences × Sig)) (bk_set : BlockKeeperSet SignerIndex P N) :
    Option (TryFoldResult Sig I H) :=
  to_combine.foldlM (fold_one_checked bls attestation_data bk_set) ⟨none, []⟩

/-- `try_fold`: the optimistic fold, and the checked one when it fails. The optimistic fold adds
    the `u16` counts of every part before it verifies anything, so a count past `u16::MAX`
    panics the whole fold. -/
def try_fold (attestation_data : AttestationData I H) (to_combine : List (Occurrences × Sig))
    (bk_set : BlockKeeperSet SignerIndex P N) : Option (TryFoldResult Sig I H) := do
  match ← try_fold_all_optimistic bls attestation_data to_combine bk_set with
  | some folded => pure ⟨some folded, []⟩
  | none => try_fold_one_by_one_checked bls attestation_data to_combine bk_set

end Fold

/-- `CollectedAttestations`; the notification counter that `touch` bumps is left out. -/
structure CollectedAttestations (Sig I H : Type) [DecidableEq I] where
  compacted_unverified_attestations :
    AList (fun _ : CompactedMapKey I => List (CompactedAttestation Sig I H))
  folded_attestations : AList (fun _ : CompactedMapKey I => Envelope Sig I H)
  cutoff : Nat

/-- The fields of a `BlockState` that `aggregate` reads. -/
structure BlockState (Sig P N I H : Type) where
  block_identifier : I
  block_seq_no : Option Nat
  parent_block_identifier : Option I
  bk_set : Option (BlockKeeperSet SignerIndex P N)
  envelope_hash : Option H
  primary_finalization_proof : Option (Envelope Sig I H)
  prefinalization_proof : Option (Envelope Sig I H)
  fallback_finalization_proof : Option (Envelope Sig I H)

/-- `AggregateFilter`; its one action on a missed condition is `Skip`. -/
structure AggregateFilter where
  attestation_type : AttestationTargetType
  min_signatures_inclusive : Nat

namespace CollectedAttestations

variable {Sig P N I H : Type} [DecidableEq Sig] [DecidableEq I] [DecidableEq H]

instance : Inhabited (CollectedAttestations Sig I H) := ⟨⟨∅, ∅, 0⟩⟩

def key_of (attestation : Envelope Sig I H) : CompactedMapKey I :=
  ⟨attestation.data.block_seq_no, attestation.data.block_id, attestation.data.target_type⟩

/-- The insertion shared by `add` and `add_bunch`: the compacted attestation joins the set of
    its key, and the flag says whether it was new. -/
def insert_compacted (self : CollectedAttestations Sig I H) (attestation : Envelope Sig I H) :
    Bool × CollectedAttestations Sig I H :=
  let key := key_of attestation
  let compacted := CompactedAttestation.from attestation
  match self.compacted_unverified_attestations.lookup key with
  | some e =>
    if compacted ∈ e then (false, self)
    else (true, { self with
      compacted_unverified_attestations :=
        self.compacted_unverified_attestations.insert key (e ++ [compacted]) })
  | none => (true, { self with
      compacted_unverified_attestations :=
        self.compacted_unverified_attestations.insert key [compacted] })

/-- `add`; it always returns `Ok`. -/
def add (self : CollectedAttestations Sig I H) (attestation : Envelope Sig I H)
    (enable_cutoff : Bool) : Bool × CollectedAttestations Sig I H :=
  if enable_cutoff && decide (self.cutoff ≥ attestation.data.block_seq_no) then (false, self)
  else self.insert_compacted attestation

/-- `add_bunch`; it always returns `Ok`. -/
def add_bunch (self : CollectedAttestations Sig I H) (attestations : List (Envelope Sig I H))
    (enable_cutoff : Bool) : Bool × CollectedAttestations Sig I H :=
  let attestations := if enable_cutoff then
      attestations.filter (fun e => e.data.block_seq_no > self.cutoff)
    else attestations
  if attestations.isEmpty then (false, self)
  else attestations.foldl (fun (added_smth, self) attestation =>
      let (is_modified, self) := self.insert_compacted attestation
      (added_smth || is_modified, self)) (false, self)

/-- `move_cutoff`: every key at or below the new cutoff is dropped. -/
def move_cutoff (self : CollectedAttestations Sig I H) (block_seq_no : Nat) (_block_id : I) :
    CollectedAttestations Sig I H :=
  { cutoff := block_seq_no
    compacted_unverified_attestations :=
      Iterate.retain self.compacted_unverified_attestations (fun k => k.block_seq_no > block_seq_no)
    folded_attestations :=
      Iterate.retain self.folded_attestations (fun k => k.block_seq_no > block_seq_no) }

/-- The loop of `aggregate` over the unverified attestations of a key: those for the block's
    parent and envelope whose signers are all in the bk set join the signers and the parts to
    fold. -/
def collect_unverified (parent_block_identifier : I) (envelope_hash : H)
    (bk_set : BlockKeeperSet SignerIndex P N)
    (start : Finset SignerIndex × List (Occurrences × Sig))
    (unverified_attestations : List (CompactedAttestation Sig I H)) :
    Finset SignerIndex × List (Occurrences × Sig) :=
  unverified_attestations.foldl (fun (combined_signers, to_combine) attestation =>
    if attestation.parent_block_id ≠ parent_block_identifier ∨
        attestation.envelope_hash ≠ envelope_hash then (combined_signers, to_combine)
    else if attestation.signers.all bk_set.contains_signer then
      (combined_signers ∪ attestation.signers.toFinset,
        to_combine ++ [(attestation.signature_occurrences, attestation.aggregated_signature)])
    else (combined_signers, to_combine)) start

/-- What that loop starts from: the stored fold's signers, and the stored fold as the first
    part to fold. -/
def fold_start (folded_attestation : Option (Envelope Sig I H)) :
    Finset SignerIndex × List (Occurrences × Sig) :=
  match folded_attestation with
  | some folded => (folded.signers.toFinset,
      [(folded.signature_occurrences, folded.aggregated_signature)])
  | none => (∅, [])

/-- The proof the block state already holds for a target type. -/
def check_stored_in_state (block_state : BlockState Sig P N I H) :
    AttestationTargetType → Option (Envelope Sig I H)
  | .Primary => block_state.primary_finalization_proof.or block_state.prefinalization_proof
  | .Fallback => block_state.fallback_finalization_proof

/-- One entry of `aggregate`'s loop: `some envelope` is pushed to the result, `none` skipped, an
    error aborts the call with the state as it stands; the outer `none` is a panic. -/
def aggregate_one (bls : BLSSignatureScheme Sig P (AttestationData I H))
    (self : CollectedAttestations Sig I H) (block_state : BlockState Sig P N I H)
    (aggregate_filter : AggregateFilter) :
    Option (Except String (Option (Envelope Sig I H)) × CollectedAttestations Sig I H) :=
  let min := aggregate_filter.min_signatures_inclusive
  match (check_stored_in_state block_state aggregate_filter.attestation_type).filter
      (fun stored => stored.signatures_count ≥ min) with
  | some stored => some (.ok (some stored), self)
  | none =>
  match block_state.block_seq_no with
  | none => some (.error "BlockSeqNo is missing", self)
  | some block_seq_no =>
  match block_state.parent_block_identifier with
  | none => some (.error "Parent block id is missing", self)
  | some parent_block_identifier =>
  let key : CompactedMapKey I :=
    ⟨block_seq_no, block_state.block_identifier, aggregate_filter.attestation_type⟩
  let folded_attestation := self.folded_attestations.lookup key
  match folded_attestation.filter (fun folded => folded.signatures_count ≥ min) with
  | some folded => some (.ok (some folded), self)
  | none =>
  match block_state.bk_set with
  | none => some (.error "Missing bk set", self)
  | some bk_set =>
  match block_state.envelope_hash with
  | none => some (.error "Envelope hash is missing", self)
  | some envelope_hash =>
  let (combined_signers, to_combine) := collect_unverified parent_block_identifier envelope_hash
    bk_set (fold_start folded_attestation)
    ((self.compacted_unverified_attestations.lookup key).getD [])
  if combined_signers.card ≥ min then
    let attestation_data : AttestationData I H :=
      ⟨block_state.block_identifier, block_seq_no, parent_block_identifier, envelope_hash,
        aggregate_filter.attestation_type⟩
    match try_fold bls attestation_data to_combine bk_set with
    | none => none
    | some fold_result =>
      match fold_result.folded with
      | none => some (.ok none, self)
      | some new_fold =>
        let self := { self with folded_attestations := self.folded_attestations.insert key new_fold }
        if new_fold.signatures_count ≥ min then some (.ok (some new_fold), self)
        else some (.ok none, self)
  else some (.ok none, self)

/-- `aggregate`, entry by entry; the found envelopes are pushed in order. -/
def aggregate (bls : BLSSignatureScheme Sig P (AttestationData I H)) :
    CollectedAttestations Sig I H → List (BlockState Sig P N I H × AggregateFilter) →
    Option (Except String (List (Envelope Sig I H)) × CollectedAttestations Sig I H)
  | self, [] => some (.ok [], self)
  | self, (block_state, aggregate_filter) :: required =>
    match self.aggregate_one bls block_state aggregate_filter with
    | none => none
    | some (.error e, self) => some (.error e, self)
    | some (.ok found, self) =>
      match aggregate bls self required with
      | none => none
      | some (.error e, self) => some (.error e, self)
      | some (.ok result, self) => some (.ok (found.toList ++ result), self)

/-- The calls that change the collection. -/
inductive Call (Sig P N I H : Type) where
  | add (attestation : Envelope Sig I H) (enable_cutoff : Bool)
  | add_bunch (attestations : List (Envelope Sig I H)) (enable_cutoff : Bool)
  | move_cutoff (block_seq_no : Nat) (block_id : I)
  | aggregate (required : List (BlockState Sig P N I H × AggregateFilter))

/-- The state after a call; `none` is a panic. -/
def apply (bls : BLSSignatureScheme Sig P (AttestationData I H)) :
    Call Sig P N I H → CollectedAttestations Sig I H → Option (CollectedAttestations Sig I H)
  | .add attestation enable_cutoff, self => some (self.add attestation enable_cutoff).2
  | .add_bunch attestations enable_cutoff, self =>
    some (self.add_bunch attestations enable_cutoff).2
  | .move_cutoff block_seq_no block_id, self => some (self.move_cutoff block_seq_no block_id)
  | .aggregate required, self => (self.aggregate bls required).map (·.2)

def run (bls : BLSSignatureScheme Sig P (AttestationData I H)) (calls : List (Call Sig P N I H))
    (self : CollectedAttestations Sig I H) : Option (CollectedAttestations Sig I H) :=
  calls.foldlM (fun self call => apply bls call self) self

end CollectedAttestations

/-- Every signer of an occurrence map passes `keep`. -/
def SignedBy (keep : SignerIndex → Prop) (occurrences : Occurrences) : Prop :=
  ∀ signer ∈ occurrences.map (·.1), keep signer

theorem mem_signers_of_add_occurrence {signer count : Nat} :
    ∀ {acc r : Occurrences}, add_occurrence acc (signer, count) = some r →
      ∀ s ∈ r.map (·.1), s = signer ∨ s ∈ acc.map (·.1)
  | [], r, hadd, s, hs => by
    simp only [add_occurrence, Option.some.injEq] at hadd
    subst hadd
    simpa using hs
  | (k, v) :: rest, r, hadd, s, hs => by
    simp only [add_occurrence] at hadd
    split_ifs at hadd
    · cases hadd
      simpa using hs
    · cases hadd
      right
      simpa using hs
    · obtain ⟨r', hr', rfl⟩ := Option.map_eq_some_iff.mp hadd
      simp only [List.map_cons, List.mem_cons] at hs ⊢
      rcases hs with rfl | hs
      · exact .inr (.inl rfl)
      · rcases mem_signers_of_add_occurrence hr' s hs with h | h
        · exact .inl h
        · exact .inr (.inr h)

section SignedBy

variable {keep : SignerIndex → Prop}

theorem SignedBy.nil : SignedBy keep [] := by simp [SignedBy]

theorem SignedBy.of_add_occurrences {acc more r : Occurrences} (hacc : SignedBy keep acc)
    (hmore : SignedBy keep more) (hadd : add_occurrences acc more = some r) : SignedBy keep r := by
  refine Iterate.foldlM_option_invariant (SignedBy keep) ?_ hadd hacc
  rintro ⟨signer, count⟩ hpart t t' hstep ht s hs
  rcases mem_signers_of_add_occurrence hstep s hs with rfl | h
  · exact hmore _ (List.mem_map_of_mem hpart)
  · exact ht s h

variable {Sig P N I H : Type} (bls : BLSSignatureScheme Sig P (AttestationData I H))
  {data : AttestationData I H} {bk_set : BlockKeeperSet SignerIndex P N}

/-- The optimistic fold signs with the signers of its parts. -/
theorem SignedBy.of_try_fold_all_optimistic {to_combine : List (Occurrences × Sig)}
    {envelope : Envelope Sig I H} (hparts : ∀ part ∈ to_combine, SignedBy keep part.1)
    (hfold : try_fold_all_optimistic bls data to_combine bk_set = some (some envelope)) :
    SignedBy keep envelope.signature_occurrences := by
  unfold try_fold_all_optimistic at hfold
  cases hocc : to_combine.foldlM (fun acc part => add_occurrences acc part.1) [] with
  | none => simp [hocc] at hfold
  | some occurrences =>
    have hsigned : SignedBy keep occurrences :=
      Iterate.foldlM_option_invariant (SignedBy keep)
        (fun part hpart _ _ hstep ht => SignedBy.of_add_occurrences ht (hparts part hpart) hstep) hocc
        SignedBy.nil
    simp only [hocc, Option.bind_eq_bind, Option.bind_some] at hfold
    split at hfold
    · simp at hfold
    · split at hfold
      · cases hfold
        exact hsigned
      · simp at hfold

/-- One checked step keeps the fold signed by the signers of the parts. -/
theorem SignedBy.of_fold_one_checked {result result' : TryFoldResult Sig I H}
    {part : Occurrences × Sig}
    (hresult : ∀ e, result.folded = some e → SignedBy keep e.signature_occurrences)
    (hpart : SignedBy keep part.1) (hstep : fold_one_checked bls data bk_set result part = some result') :
    ∀ e, result'.folded = some e → SignedBy keep e.signature_occurrences := by
  obtain ⟨occurrences, signature⟩ := part
  simp only [fold_one_checked] at hstep
  split at hstep
  · split at hstep
    · next e hfolded =>
      split at hstep
      · cases hstep
        exact hresult
      · obtain ⟨merged, hadd, hresult'⟩ := Option.bind_eq_some_iff.mp hstep
        cases hresult'
        rintro _ ⟨⟩
        exact SignedBy.of_add_occurrences (hresult e hfolded) hpart hadd
    · cases hstep
      rintro _ ⟨⟩
      exact hpart
  · cases hstep
    exact hresult

theorem SignedBy.of_try_fold {to_combine : List (Occurrences × Sig)} {result : TryFoldResult Sig I H}
    (hparts : ∀ part ∈ to_combine, SignedBy keep part.1)
    (hfold : try_fold bls data to_combine bk_set = some result) :
    ∀ e, result.folded = some e → SignedBy keep e.signature_occurrences := by
  unfold try_fold at hfold
  cases hoptimistic : try_fold_all_optimistic bls data to_combine bk_set with
  | none => simp [hoptimistic] at hfold
  | some optimistic =>
    simp only [hoptimistic, Option.bind_eq_bind, Option.bind_some] at hfold
    cases optimistic with
    | some folded =>
      cases hfold
      rintro _ ⟨⟩
      exact SignedBy.of_try_fold_all_optimistic bls hparts hoptimistic
    | none =>
      refine Iterate.foldlM_option_invariant
        (fun result => ∀ e, result.folded = some e → SignedBy keep e.signature_occurrences)
        (fun part hpart _ _ hstep ht => SignedBy.of_fold_one_checked bls ht (hparts part hpart) hstep)
        hfold ?_
      rintro _ ⟨⟩

/-- The parts `aggregate` folds are the stored fold and the attestations all of whose signers are
    in the bk set. -/
theorem SignedBy.of_collect_unverified [DecidableEq I] [DecidableEq H] {parent_block_identifier : I}
    {envelope_hash : H} {start : Finset SignerIndex × List (Occurrences × Sig)}
    {unverified_attestations : List (CompactedAttestation Sig I H)}
    (hstart : ∀ part ∈ start.2, SignedBy (bk_set.contains_signer · = true) part.1) :
    ∀ part ∈ (CollectedAttestations.collect_unverified parent_block_identifier envelope_hash bk_set
      start unverified_attestations).2, SignedBy (bk_set.contains_signer · = true) part.1 := by
  unfold CollectedAttestations.collect_unverified
  refine Iterate.foldl_invariant
    (fun acc : Finset SignerIndex × List (Occurrences × Sig) => ∀ part ∈ acc.2, SignedBy _ part.1)
    ?_ hstart
  rintro attestation - ⟨combined_signers, to_combine⟩ hacc
  dsimp only
  split_ifs with hskip hall
  · exact hacc
  · intro part hpart
    rcases List.mem_append.mp hpart with h | h
    · exact hacc part h
    · obtain rfl := List.mem_singleton.mp h
      exact fun s hs => List.all_eq_true.mp hall s hs
  · exact hacc

end SignedBy

namespace CollectedAttestations

variable {Sig P N I H : Type} [DecidableEq I] [DecidableEq H]
  (bls : BLSSignatureScheme Sig P (AttestationData I H))

/-- What one entry of `aggregate` does to the collection: nothing, or store the fold of the
    stored fold and the key's attestations. -/
theorem aggregate_one_state {self after : CollectedAttestations Sig I H}
    {block_state : BlockState Sig P N I H} {aggregate_filter : AggregateFilter}
    {result : Except String (Option (Envelope Sig I H))}
    (h : self.aggregate_one bls block_state aggregate_filter = some (result, after)) :
    after = self ∨ ∃ block_seq_no parent_block_identifier bk_set envelope_hash fold_result new_fold,
      let key : CompactedMapKey I :=
        ⟨block_seq_no, block_state.block_identifier, aggregate_filter.attestation_type⟩
      block_state.block_seq_no = some block_seq_no ∧
      block_state.parent_block_identifier = some parent_block_identifier ∧
      block_state.bk_set = some bk_set ∧ block_state.envelope_hash = some envelope_hash ∧
      try_fold bls ⟨block_state.block_identifier, block_seq_no, parent_block_identifier,
          envelope_hash, aggregate_filter.attestation_type⟩
        (collect_unverified parent_block_identifier envelope_hash bk_set
          (fold_start (self.folded_attestations.lookup key))
          ((self.compacted_unverified_attestations.lookup key).getD [])).2 bk_set =
        some fold_result ∧
      fold_result.folded = some new_fold ∧
      after = { self with folded_attestations := self.folded_attestations.insert key new_fold } := by
  have unchanged : ∀ {r}, some (r, self) = some (result, after) → after = self :=
    fun h => (Prod.mk.inj (Option.some.inj h)).2.symm
  unfold aggregate_one at h
  dsimp only at h
  split at h
  · exact .inl (unchanged h)
  split at h
  · exact .inl (unchanged h)
  next block_seq_no hseq =>
  split at h
  · exact .inl (unchanged h)
  next parent_block_identifier hparent =>
  split at h
  · exact .inl (unchanged h)
  split at h
  · exact .inl (unchanged h)
  next bk_set hbk_set =>
  split at h
  · exact .inl (unchanged h)
  next envelope_hash henvelope_hash =>
  split at h
  case isFalse => exact .inl (unchanged h)
  split at h
  · cases h
  next fold_result hfold =>
  split at h
  · exact .inl (unchanged h)
  next new_fold hnew_fold =>
  right
  refine ⟨block_seq_no, parent_block_identifier, bk_set, envelope_hash, fold_result, new_fold,
    hseq, hparent, hbk_set, henvelope_hash, hfold, hnew_fold, ?_⟩
  split at h <;> exact (Prod.mk.inj (Option.some.inj h)).2.symm

variable (bk_set_of : I → BlockKeeperSet SignerIndex P N)

/-- Every stored fold is signed by signers of its block's bk set. -/
def FoldsSigned (self : CollectedAttestations Sig I H) : Prop :=
  ∀ key fold, self.folded_attestations.lookup key = some fold →
    SignedBy ((bk_set_of key.block_identifier).contains_signer · = true) fold.signature_occurrences

/-- A block state carries its block's bk set, when it has one. -/
def BkSetOf (block_state : BlockState Sig P N I H) : Prop :=
  ∀ bk_set, block_state.bk_set = some bk_set → bk_set = bk_set_of block_state.block_identifier

/-- The block states of an `aggregate` call carry their blocks' bk sets. -/
def Call.BkSetsOf : Call Sig P N I H → Prop
  | .aggregate required => ∀ entry ∈ required, BkSetOf bk_set_of entry.1
  | _ => True

variable {bk_set_of}

omit [DecidableEq H] in
theorem folds_signed_default : FoldsSigned bk_set_of (default : CollectedAttestations Sig I H) := by
  intro key fold hlookup
  simp [default] at hlookup

theorem FoldsSigned.aggregate_one {self after : CollectedAttestations Sig I H}
    {block_state : BlockState Sig P N I H} {aggregate_filter : AggregateFilter}
    {result : Except String (Option (Envelope Sig I H))} (hself : FoldsSigned bk_set_of self)
    (hblock : BkSetOf bk_set_of block_state)
    (h : self.aggregate_one bls block_state aggregate_filter = some (result, after)) :
    FoldsSigned bk_set_of after := by
  rcases aggregate_one_state bls h with rfl | ⟨block_seq_no, parent_block_identifier, bk_set,
    envelope_hash, fold_result, new_fold, -, -, hbk_set, -, hfold, hnew_fold, rfl⟩
  · exact hself
  obtain rfl := hblock bk_set hbk_set
  let key : CompactedMapKey I :=
    ⟨block_seq_no, block_state.block_identifier, aggregate_filter.attestation_type⟩
  have hstart : ∀ part ∈ (fold_start (self.folded_attestations.lookup key)).2,
      SignedBy ((bk_set_of key.block_identifier).contains_signer · = true) part.1 := by
    cases hstored : self.folded_attestations.lookup key with
    | none => simp [fold_start]
    | some stored =>
      simp only [fold_start, List.mem_singleton]
      rintro _ rfl
      exact hself key stored hstored
  have hnew := SignedBy.of_try_fold bls (SignedBy.of_collect_unverified hstart) hfold new_fold
    hnew_fold
  intro key' fold hlookup
  by_cases hkey : key' = key
  · subst hkey
    rw [AList.lookup_insert] at hlookup
    cases hlookup
    exact hnew
  · rw [AList.lookup_insert_ne hkey] at hlookup
    exact hself key' fold hlookup

theorem FoldsSigned.aggregate : ∀ {self after : CollectedAttestations Sig I H}
    {required : List (BlockState Sig P N I H × AggregateFilter)}
    {result : Except String (List (Envelope Sig I H))},
    FoldsSigned bk_set_of self → (∀ entry ∈ required, BkSetOf bk_set_of entry.1) →
      self.aggregate bls required = some (result, after) → FoldsSigned bk_set_of after
  | self, after, [], result, hself, _, h => by
    cases h
    exact hself
  | self, after, (block_state, aggregate_filter) :: required, result, hself, hblocks, h => by
    simp only [CollectedAttestations.aggregate] at h
    split at h
    · cases h
    · next next_self _ hone =>
      cases h
      exact hself.aggregate_one bls (hblocks _ List.mem_cons_self) hone
    · next found next_self hone =>
      have hnext := hself.aggregate_one bls (hblocks _ List.mem_cons_self) hone
      have hrest := fun entry hentry => hblocks entry (List.mem_cons_of_mem _ hentry)
      split at h
      · cases h
      · next _ hloop =>
        cases h
        exact hnext.aggregate hrest hloop
      · next _ hloop =>
        cases h
        exact hnext.aggregate hrest hloop

section Insert

variable [DecidableEq Sig]

/-- Receiving attestations leaves the stored folds as they are. -/
@[simp]
theorem insert_compacted_folded (self : CollectedAttestations Sig I H)
    (attestation : Envelope Sig I H) :
    (self.insert_compacted attestation).2.folded_attestations = self.folded_attestations := by
  unfold insert_compacted
  dsimp only
  split
  · split <;> rfl
  · rfl

@[simp]
theorem add_folded (self : CollectedAttestations Sig I H) (attestation : Envelope Sig I H)
    (enable_cutoff : Bool) :
    (self.add attestation enable_cutoff).2.folded_attestations = self.folded_attestations := by
  unfold add
  split <;> simp

@[simp]
theorem add_bunch_folded (self : CollectedAttestations Sig I H)
    (attestations : List (Envelope Sig I H)) (enable_cutoff : Bool) :
    (self.add_bunch attestations enable_cutoff).2.folded_attestations =
      self.folded_attestations := by
  unfold add_bunch
  dsimp only
  split_ifs <;> first
    | rfl
    | refine Iterate.foldl_invariant
        (fun acc : Bool × CollectedAttestations Sig I H =>
          acc.2.folded_attestations = self.folded_attestations) ?_ rfl
      rintro attestation - ⟨added_smth, next⟩ hnext
      simpa using hnext

/-- A call keeps every stored fold signed by its block's bk set. -/
theorem FoldsSigned.apply {call : Call Sig P N I H} {self after : CollectedAttestations Sig I H}
    (hself : FoldsSigned bk_set_of self) (hcall : call.BkSetsOf bk_set_of)
    (h : apply bls call self = some after) : FoldsSigned bk_set_of after := by
  cases call with
  | add attestation enable_cutoff =>
    cases h
    intro key fold hlookup
    exact hself key fold (by simpa using hlookup)
  | add_bunch attestations enable_cutoff =>
    cases h
    intro key fold hlookup
    exact hself key fold (by simpa using hlookup)
  | move_cutoff block_seq_no block_id =>
    cases h
    intro key fold hlookup
    simp only [move_cutoff, Iterate.lookup_retain] at hlookup
    split_ifs at hlookup
    exact hself key fold hlookup
  | aggregate required =>
    obtain ⟨⟨result, after'⟩, hrun, rfl⟩ := Option.map_eq_some_iff.mp h
    exact hself.aggregate bls hcall hrun

/-- Over every run whose block states carry their blocks' bk sets, every fold `aggregate` has
    stored is signed by signers of its block's bk set only. -/
theorem run_folds_signed {calls : List (Call Sig P N I H)}
    (hcalls : ∀ call ∈ calls, call.BkSetsOf bk_set_of) {self after : CollectedAttestations Sig I H}
    (hrun : run bls calls self = some after) (hself : FoldsSigned bk_set_of self) :
    FoldsSigned bk_set_of after :=
  Iterate.foldlM_option_invariant (FoldsSigned bk_set_of)
    (fun call hcall _ _ hstep ht => ht.apply bls (hcalls call hcall) hstep) hrun hself

end Insert

end CollectedAttestations

/-- BLS in its aggregate-verification form over the free commutative monoid: a signature is the
    multiset of (public key, data) pairs it is made of, a merge adds, and an aggregate verifies
    against public keys with multiplicities when it is exactly their signatures on the data.
    In the pairing group an aggregate is the sum of its signatures, so every check this scheme
    passes on honest signatures `GoshBLS` passes too. -/
def free_bls {P D : Type} [DecidableEq P] [DecidableEq D] :
    BLSSignatureScheme (Multiset (P × D)) P D where
  verify signature pubkeys_occurrences data :=
    .ok (decide (signature =
      (pubkeys_occurrences.map fun e => Multiset.replicate e.2 (e.1, data)).sum))
  merge one another := .ok (one + another)
  merge_all signatures := .ok signatures.sum

/-- Signatures of `free_bls` on attestations with numbers for block identifiers and hashes. -/
abbrev FreeSignature := Multiset (Nat × AttestationData Nat Nat)

/-- Three keepers, signers `0`, `1` and `2`, each with its index for a public key. -/
def three_keepers : BlockKeeperSet SignerIndex Nat Nat :=
  ((BlockKeeperSet.new.insert 0 ⟨0, 0⟩).insert 1 ⟨1, 1⟩).insert 2 ⟨2, 2⟩

def attested_data : AttestationData Nat Nat := ⟨7, 1, 6, 5, .Primary⟩

def attested_key : CompactedMapKey Nat := ⟨1, 7, .Primary⟩

/-- The attestation of one keeper, signed by it alone. -/
def signed_by (signer : SignerIndex) : Envelope FreeSignature Nat Nat :=
  ⟨{(signer, attested_data)}, [(signer, 1)], attested_data⟩

def attested_block (threshold : Nat) :
    BlockState FreeSignature Nat Nat Nat Nat × AggregateFilter :=
  (⟨7, some 1, some 6, some three_keepers, some 5, none, none, none⟩, ⟨.Primary, threshold⟩)

/-- Two attestations folded for two signatures, then a third attestation and a call for three:
    the second fold adds the first fold and both attestations it was made of again. -/
def refold_calls : List (CollectedAttestations.Call FreeSignature Nat Nat Nat Nat) :=
  [.add (signed_by 0) true, .add (signed_by 1) true, .aggregate [attested_block 2],
    .add (signed_by 2) true, .aggregate [attested_block 3]]

theorem aggregate_counts_attestation_twice :
    ∃ after, CollectedAttestations.run free_bls refold_calls default = some after ∧
      (after.folded_attestations.lookup attested_key).map
        (fun fold => fold.signature_occurrences.count 0) = some 2 ∧
      (((after.compacted_unverified_attestations.lookup attested_key).getD []).map
        (fun attestation => attestation.signature_occurrences.count 0)).sum = 1 :=
  ⟨_, rfl, by decide +kernel, by decide +kernel⟩

theorem refold_calls_folds_signed :
    ∃ after, CollectedAttestations.run free_bls refold_calls default = some after ∧
      CollectedAttestations.FoldsSigned (fun _ => three_keepers) after := by
  have hcalls : ∀ call ∈ refold_calls, call.BkSetsOf fun _ => three_keepers := by
    simp [refold_calls, CollectedAttestations.Call.BkSetsOf, CollectedAttestations.BkSetOf,
      attested_block]
  exact ⟨_, rfl, CollectedAttestations.run_folds_signed free_bls hcalls rfl
    CollectedAttestations.folds_signed_default⟩

end ackinacki.types.attestation
