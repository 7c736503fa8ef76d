import Mathlib.Data.List.AList
import Mathlib.Data.List.Dedup
import AckiNacki.Lib.Iterate

namespace ackinacki.node.block_state

inductive AttestationTargetType where
  | Primary
  | Fallback
  deriving DecidableEq, Repr

/-- `AttestationTarget`: how many blocks a target may take and how many signatures it needs. -/
structure AttestationTarget where
  generation_deadline : Nat
  required_attestation_count : Nat
  deriving DecidableEq, Repr

structure AttestationTargets where
  primary : AttestationTarget
  fallback : AttestationTarget
  deriving DecidableEq, Repr

/-- `AttestationTargetCheckpoint`; `current_distance` is a `usize` that grows by one per block,
    so it never comes near overflow and is a `Nat` here. -/
structure AttestationTargetCheckpoint where
  current_distance : Nat
  deadline : Nat
  required_attestation_count : Nat
  attestation_target_type : AttestationTargetType
  deriving DecidableEq, Repr

inductive AttestationTargetCheckpointCheckResult where
  | CheckpointFailed
  | CheckpointPassed
  | NoAction
  deriving DecidableEq, Repr

/-- `check`: a checkpoint past its deadline fails; one of the noted target type passes with
    enough signatures. -/
def AttestationTargetCheckpoint.check (self : AttestationTargetCheckpoint)
    (attestation_target_type : AttestationTargetType) (verified_signatures_count : Nat) :
    AttestationTargetCheckpointCheckResult :=
  if self.current_distance > self.deadline then .CheckpointFailed
  else if self.attestation_target_type ≠ attestation_target_type then .NoAction
  else if verified_signatures_count ≥ self.required_attestation_count then .CheckpointPassed
  else .NoAction

def inherit_checkpoint (checkpoint : AttestationTargetCheckpoint) : AttestationTargetCheckpoint :=
  { checkpoint with current_distance := checkpoint.current_distance + 1 }

/-- `AncestorBlocksFinalizationCheckpoints`: the two `HashMap`s, as association lists. -/
structure AncestorBlocksFinalizationCheckpoints (B : Type) where
  primary : AList (fun _ : B => AttestationTargetCheckpoint)
  fallback : AList (fun _ : B => List AttestationTargetCheckpoint)

structure AncestorBlocksFinalizationCheckpointsConstructor (B : Type) where
  inherited_checkpoints : AncestorBlocksFinalizationCheckpoints B
  passed_primary : List B
  passed_fallback : List B
  passed_fallback_preattestation_checkpoint : List B

/-- The results of `update`; the two `HashSet`s are lists without duplicates. -/
structure AncestorBlocksFinalizationCheckpointsConstructorResults (B : Type) where
  remaining_checkpoints : AncestorBlocksFinalizationCheckpoints B
  passed_primary : List B
  passed_fallback : List B
  passed_fallback_preattestation_checkpoint : List B
  transitioned_to_fallback : List B
  failed : List B

variable {B : Type} [DecidableEq B]

/-- `InheritedAncestorBlocksFinalizationCheckpoints::into_builder`. -/
def AncestorBlocksFinalizationCheckpoints.into_builder (self : AncestorBlocksFinalizationCheckpoints B) :
    AncestorBlocksFinalizationCheckpointsConstructor B :=
  ⟨self, [], [], []⟩

/-- Both checkpoints of a block dropped at once, as `note` and `complete` do. -/
def AncestorBlocksFinalizationCheckpoints.untrack (self : AncestorBlocksFinalizationCheckpoints B)
    (block_id : B) : AncestorBlocksFinalizationCheckpoints B :=
  ⟨self.primary.erase block_id, self.fallback.erase block_id⟩

namespace AncestorBlocksFinalizationCheckpointsConstructor

/-- The primary half of `note`: a passed primary checkpoint drops both checkpoints of the
    block and reports it. -/
def note_primary (self : AncestorBlocksFinalizationCheckpointsConstructor B) (attested_block : B)
    (attestation_target_type : AttestationTargetType) (verified_signatures_count : Nat) :
    AncestorBlocksFinalizationCheckpointsConstructor B :=
  match self.inherited_checkpoints.primary.lookup attested_block with
  | some primary_target_checkpoint =>
    match primary_target_checkpoint.check attestation_target_type verified_signatures_count with
    | .CheckpointPassed =>
      { self with
        inherited_checkpoints := self.inherited_checkpoints.untrack attested_block
        passed_primary := self.passed_primary ++ [attested_block] }
    | _ => self
  | none => self

/-- The fallback half of `note`: the passed fallback checkpoints are dropped, each reported as
    a preattestation when a primary count passed it, and a block left with none is reported
    and dropped. -/
def note_fallback (self : AncestorBlocksFinalizationCheckpointsConstructor B) (attested_block : B)
    (attestation_target_type : AttestationTargetType) (verified_signatures_count : Nat) :
    AncestorBlocksFinalizationCheckpointsConstructor B :=
  match self.inherited_checkpoints.fallback.lookup attested_block with
  | some fallback_checkpoints =>
    let passes := fun checkpoint : AttestationTargetCheckpoint =>
      checkpoint.check attestation_target_type verified_signatures_count == .CheckpointPassed
    let retained := fallback_checkpoints.filter fun checkpoint => !passes checkpoint
    let preattested :=
      if attestation_target_type = .Primary then
        List.replicate (fallback_checkpoints.countP passes) attested_block
      else []
    if retained.isEmpty then
      { self with
        inherited_checkpoints := self.inherited_checkpoints.untrack attested_block
        passed_fallback_preattestation_checkpoint :=
          self.passed_fallback_preattestation_checkpoint ++ preattested
        passed_fallback := self.passed_fallback ++ [attested_block] }
    else
      { self with
        inherited_checkpoints := { self.inherited_checkpoints with
          fallback := self.inherited_checkpoints.fallback.replace attested_block retained }
        passed_fallback_preattestation_checkpoint :=
          self.passed_fallback_preattestation_checkpoint ++ preattested }
  | none => self

def note (self : AncestorBlocksFinalizationCheckpointsConstructor B) (attested_block : B)
    (attestation_target_type : AttestationTargetType) (verified_signatures_count : Nat) :
    AncestorBlocksFinalizationCheckpointsConstructor B :=
  (self.note_primary attested_block attestation_target_type verified_signatures_count).note_fallback
    attested_block attestation_target_type verified_signatures_count

/-- `complete`: a primary checkpoint at its deadline moves the block to its fallback, or fails
    it when there is none; a fallback checkpoint at its deadline fails the block. -/
def complete (self : AncestorBlocksFinalizationCheckpointsConstructor B) :
    AncestorBlocksFinalizationCheckpointsConstructorResults B :=
  let checkpoints := self.inherited_checkpoints
  let expired := checkpoints.primary.entries.filter fun entry =>
    entry.2.current_distance ≥ entry.2.deadline
  let failed_primary := (expired.filter fun entry => entry.1 ∉ checkpoints.fallback).map (·.1)
  let transitioned_to_fallback :=
    (expired.filter fun entry => entry.1 ∈ checkpoints.fallback).map (·.1)
  let checkpoints := { checkpoints with
    primary := transitioned_to_fallback.foldl (fun primary block_id => primary.erase block_id)
      checkpoints.primary }
  let failed_fallback := (checkpoints.fallback.entries.filter fun entry =>
    entry.2.any fun checkpoint => checkpoint.current_distance ≥ checkpoint.deadline).map (·.1)
  let failed := (failed_primary ++ failed_fallback).dedup
  ⟨failed.foldl (fun checkpoints block_id => checkpoints.untrack block_id) checkpoints,
    self.passed_primary, self.passed_fallback, self.passed_fallback_preattestation_checkpoint,
    transitioned_to_fallback, failed⟩

/-- `update`: note every count, in the iteration order of the map, then complete. The counts
    arrive as a `HashMap`, whose iteration order is not fixed: here the list of its entries, in
    any order. -/
def update (self : AncestorBlocksFinalizationCheckpointsConstructor B)
    (attestation_count : List ((B × AttestationTargetType) × Nat)) :
    AncestorBlocksFinalizationCheckpointsConstructorResults B :=
  (attestation_count.foldl (fun self entry => self.note entry.1.1 entry.1.2 entry.2) self).complete

end AncestorBlocksFinalizationCheckpointsConstructor

namespace AncestorBlocksFinalizationCheckpoints

/-- Every block with a primary checkpoint has fallback checkpoints, and no fallback list is
    empty. -/
structure WellFormed (checkpoints : AncestorBlocksFinalizationCheckpoints B) : Prop where
  primary_has_fallback : ∀ b, b ∈ checkpoints.primary → b ∈ checkpoints.fallback
  fallback_nonempty : ∀ b fallback, checkpoints.fallback.lookup b = some fallback → fallback ≠ []

/-- Every checkpoint is before its deadline. -/
def InTime (checkpoints : AncestorBlocksFinalizationCheckpoints B) : Prop :=
  (∀ b checkpoint, checkpoints.primary.lookup b = some checkpoint →
    checkpoint.current_distance < checkpoint.deadline) ∧
  ∀ b fallback, checkpoints.fallback.lookup b = some fallback →
    ∀ checkpoint ∈ fallback, checkpoint.current_distance < checkpoint.deadline

variable {checkpoints : AncestorBlocksFinalizationCheckpoints B}

@[simp]
theorem untrack_primary (block_id : B) :
    (checkpoints.untrack block_id).primary = checkpoints.primary.erase block_id := rfl

@[simp]
theorem untrack_fallback (block_id : B) :
    (checkpoints.untrack block_id).fallback = checkpoints.fallback.erase block_id := rfl

theorem foldl_untrack (failed : List B) (checkpoints : AncestorBlocksFinalizationCheckpoints B) :
    failed.foldl (fun checkpoints block_id => checkpoints.untrack block_id) checkpoints =
      ⟨failed.foldl (fun primary block_id => primary.erase block_id) checkpoints.primary,
        failed.foldl (fun fallback block_id => fallback.erase block_id) checkpoints.fallback⟩ := by
  induction failed generalizing checkpoints with
  | nil => rfl
  | cons block_id failed ih => exact ih _

theorem WellFormed.untrack (hwf : checkpoints.WellFormed) (block_id : B) :
    (checkpoints.untrack block_id).WellFormed := by
  constructor
  · intro b hb
    rw [untrack_primary, AList.mem_erase] at hb
    rw [untrack_fallback, AList.mem_erase]
    exact ⟨hb.1, hwf.primary_has_fallback b hb.2⟩
  · intro b fallback hb
    by_cases hne : b = block_id
    · subst hne
      simp at hb
    · rw [untrack_fallback, AList.lookup_erase_ne hne] at hb
      exact hwf.fallback_nonempty b fallback hb

theorem WellFormed.replace (hwf : checkpoints.WellFormed) (block_id : B)
    {retained : List AttestationTargetCheckpoint} (hretained : retained ≠ []) :
    ({ checkpoints with fallback := checkpoints.fallback.replace block_id retained } :
      AncestorBlocksFinalizationCheckpoints B).WellFormed := by
  constructor
  · intro b hb
    exact AList.mem_replace.mpr (hwf.primary_has_fallback b hb)
  · intro b fallback hb
    simp only [Iterate.lookup_replace] at hb
    split_ifs at hb
    · cases hb
      exact hretained
    · exact hwf.fallback_nonempty b fallback hb

theorem empty_well_formed : (⟨∅, ∅⟩ : AncestorBlocksFinalizationCheckpoints B).WellFormed :=
  ⟨fun _ h => absurd h (AList.notMem_empty _), fun _ _ h => by simp at h⟩

/-- Moving every checkpoint one block further keeps the checkpoints well formed. -/
theorem WellFormed.inherit (hwf : checkpoints.WellFormed) :
    (⟨Iterate.map_values (fun _ => inherit_checkpoint) checkpoints.primary,
      Iterate.map_values (fun _ fallback => fallback.map inherit_checkpoint) checkpoints.fallback⟩ :
        AncestorBlocksFinalizationCheckpoints B).WellFormed := by
  constructor
  · intro b hb
    rw [Iterate.mem_map_values] at hb ⊢
    exact hwf.primary_has_fallback b hb
  · intro b fallback hb
    rw [Iterate.lookup_map_values, Option.map_eq_some_iff] at hb
    obtain ⟨inherited, hinherited, rfl⟩ := hb
    exact mt List.map_eq_nil_iff.mp (hwf.fallback_nonempty b inherited hinherited)

/-- Adding a block with a primary checkpoint and a non-empty fallback list keeps the checkpoints
    well formed. -/
theorem WellFormed.insert (hwf : checkpoints.WellFormed) (block_id : B)
    (primary : AttestationTargetCheckpoint) {fallback : List AttestationTargetCheckpoint}
    (hfallback : fallback ≠ []) :
    (⟨checkpoints.primary.insert block_id primary, checkpoints.fallback.insert block_id fallback⟩ :
      AncestorBlocksFinalizationCheckpoints B).WellFormed := by
  constructor
  · intro b hb
    rw [AList.mem_insert] at hb ⊢
    exact hb.imp_right (hwf.primary_has_fallback b)
  · intro b fallback' hb
    rcases Iterate.lookup_insert_eq_some.mp hb with ⟨-, rfl⟩ | ⟨-, hb⟩
    · exact hfallback
    · exact hwf.fallback_nonempty b fallback' hb

end AncestorBlocksFinalizationCheckpoints

namespace AncestorBlocksFinalizationCheckpointsConstructor

open AncestorBlocksFinalizationCheckpoints

/-- The blocks reported passed so far. -/
def reported (self : AncestorBlocksFinalizationCheckpointsConstructor B) : List B :=
  self.passed_primary ++ self.passed_fallback

/-- What the noting loop keeps, against the checkpoints it started from: the checkpoints stay
    well formed, and each reported block is reported once, was tracked at the start and is no
    longer tracked. -/
structure Consistent (initial : AncestorBlocksFinalizationCheckpoints B)
    (builder : AncestorBlocksFinalizationCheckpointsConstructor B) : Prop where
  well_formed : builder.inherited_checkpoints.WellFormed
  reported_nodup : builder.reported.Nodup
  reported_untracked : ∀ b ∈ builder.reported, b ∉ builder.inherited_checkpoints.fallback
  reported_tracked : ∀ b ∈ builder.reported, b ∈ initial.fallback
  tracked_shrinks : ∀ b, b ∈ builder.inherited_checkpoints.fallback → b ∈ initial.fallback

variable {initial : AncestorBlocksFinalizationCheckpoints B}
  {self self' : AncestorBlocksFinalizationCheckpointsConstructor B}

theorem into_builder_consistent (hwf : initial.WellFormed) :
    Consistent initial initial.into_builder :=
  ⟨hwf, List.nodup_nil, fun _ h => absurd h List.not_mem_nil, fun _ h => absurd h List.not_mem_nil,
    fun _ h => h⟩

/-- Reporting a tracked block and dropping its checkpoints keeps the invariant. -/
theorem Consistent.report (hc : Consistent initial self) {block_id : B}
    (htracked : block_id ∈ self.inherited_checkpoints.fallback)
    (hcheckpoints : self'.inherited_checkpoints = self.inherited_checkpoints.untrack block_id)
    (hreported : self'.reported.Perm (self.reported ++ [block_id])) :
    Consistent initial self' := by
  have hnew : block_id ∉ self.reported := fun h => hc.reported_untracked block_id h htracked
  have hmem : ∀ b, b ∈ self'.reported ↔ b ∈ self.reported ∨ b = block_id := by
    intro b
    rw [hreported.mem_iff, List.mem_append, List.mem_singleton]
  refine ⟨?_, ?_, ?_, ?_, ?_⟩
  · rw [hcheckpoints]
    exact hc.well_formed.untrack block_id
  · rw [hreported.nodup_iff]
    refine List.nodup_append.mpr ⟨hc.reported_nodup, List.nodup_singleton _, ?_⟩
    intro b hb b' hb' hbb'
    rw [List.mem_singleton] at hb'
    subst hb' hbb'
    exact hnew hb
  · intro b hb
    rw [hcheckpoints, untrack_fallback, AList.mem_erase]
    rcases (hmem b).mp hb with hb | rfl
    · exact fun h => hc.reported_untracked b hb h.2
    · exact fun h => h.1 rfl
  · intro b hb
    rcases (hmem b).mp hb with hb | rfl
    · exact hc.reported_tracked b hb
    · exact hc.tracked_shrinks b htracked
  · intro b hb
    rw [hcheckpoints, untrack_fallback, AList.mem_erase] at hb
    exact hc.tracked_shrinks b hb.2

/-- Replacing a tracked block's fallback list by a non-empty one keeps the invariant. -/
theorem Consistent.replace (hc : Consistent initial self) {block_id : B}
    {retained : List AttestationTargetCheckpoint} (hretained : retained ≠ [])
    (hcheckpoints : self'.inherited_checkpoints = { self.inherited_checkpoints with
      fallback := self.inherited_checkpoints.fallback.replace block_id retained })
    (hreported : self'.reported = self.reported) :
    Consistent initial self' := by
  have hkeys : ∀ b, b ∈ self'.inherited_checkpoints.fallback ↔
      b ∈ self.inherited_checkpoints.fallback := by
    intro b
    rw [hcheckpoints]
    exact AList.mem_replace
  refine ⟨?_, ?_, ?_, ?_, ?_⟩
  · rw [hcheckpoints]
    exact hc.well_formed.replace block_id hretained
  · rw [hreported]
    exact hc.reported_nodup
  · intro b hb
    rw [hkeys]
    exact hc.reported_untracked b (hreported ▸ hb)
  · intro b hb
    exact hc.reported_tracked b (hreported ▸ hb)
  · intro b hb
    exact hc.tracked_shrinks b ((hkeys b).mp hb)

theorem Consistent.note_primary (hc : Consistent initial self) (attested_block : B)
    (attestation_target_type : AttestationTargetType) (verified_signatures_count : Nat) :
    Consistent initial
      (self.note_primary attested_block attestation_target_type verified_signatures_count) := by
  unfold AncestorBlocksFinalizationCheckpointsConstructor.note_primary
  split
  · next primary_target_checkpoint hprimary =>
    split
    · have htracked : attested_block ∈ self.inherited_checkpoints.fallback :=
        hc.well_formed.primary_has_fallback attested_block
          (Iterate.mem_of_lookup_eq_some hprimary)
      refine hc.report htracked rfl ?_
      simp only [reported, List.append_assoc, List.singleton_append]
      exact List.Perm.append_left _ (List.perm_append_singleton _ _).symm
    · exact hc
  · exact hc

theorem Consistent.note_fallback (hc : Consistent initial self) (attested_block : B)
    (attestation_target_type : AttestationTargetType) (verified_signatures_count : Nat) :
    Consistent initial
      (self.note_fallback attested_block attestation_target_type verified_signatures_count) := by
  unfold AncestorBlocksFinalizationCheckpointsConstructor.note_fallback
  split
  · next fallback_checkpoints hfallback =>
    have htracked : attested_block ∈ self.inherited_checkpoints.fallback :=
      Iterate.mem_of_lookup_eq_some hfallback
    dsimp only
    split
    · exact hc.report htracked rfl (by simp [reported])
    · next hempty => exact hc.replace (fun h => hempty (List.isEmpty_iff.mpr h)) rfl rfl
  · exact hc

theorem Consistent.note (hc : Consistent initial self) (attested_block : B)
    (attestation_target_type : AttestationTargetType) (verified_signatures_count : Nat) :
    Consistent initial
      (self.note attested_block attestation_target_type verified_signatures_count) :=
  (hc.note_primary attested_block attestation_target_type verified_signatures_count).note_fallback
    attested_block attestation_target_type verified_signatures_count

section Complete

variable (self : AncestorBlocksFinalizationCheckpointsConstructor B)

theorem mem_complete_transitioned (a : B) :
    a ∈ self.complete.transitioned_to_fallback ↔
      ∃ checkpoint, self.inherited_checkpoints.primary.lookup a = some checkpoint ∧
        checkpoint.deadline ≤ checkpoint.current_distance ∧ a ∈ self.inherited_checkpoints.fallback := by
  simp only [complete, List.filter_filter]
  rw [Iterate.mem_keys_filter]
  simp [and_comm]

theorem mem_complete_failed (a : B) :
    a ∈ self.complete.failed ↔
      (∃ checkpoint, self.inherited_checkpoints.primary.lookup a = some checkpoint ∧
        checkpoint.deadline ≤ checkpoint.current_distance ∧ a ∉ self.inherited_checkpoints.fallback) ∨
      ∃ fallback, self.inherited_checkpoints.fallback.lookup a = some fallback ∧
        ∃ checkpoint ∈ fallback, checkpoint.deadline ≤ checkpoint.current_distance := by
  simp only [complete, List.filter_filter, List.mem_dedup, List.mem_append]
  rw [Iterate.mem_keys_filter, Iterate.mem_keys_filter]
  simp [and_comm]

theorem complete_primary_lookup (a : B) :
    self.complete.remaining_checkpoints.primary.lookup a =
      if a ∈ self.complete.failed then none
      else if a ∈ self.complete.transitioned_to_fallback then none
      else self.inherited_checkpoints.primary.lookup a := by
  simp only [complete, AncestorBlocksFinalizationCheckpoints.foldl_untrack]
  rw [Iterate.lookup_foldl_erase, Iterate.lookup_foldl_erase]

theorem complete_fallback_lookup (a : B) :
    self.complete.remaining_checkpoints.fallback.lookup a =
      if a ∈ self.complete.failed then none else self.inherited_checkpoints.fallback.lookup a := by
  simp only [complete, AncestorBlocksFinalizationCheckpoints.foldl_untrack]
  rw [Iterate.lookup_foldl_erase]

end Complete

end AncestorBlocksFinalizationCheckpointsConstructor

/-- The blocks an update reports, passed or failed. -/
def AncestorBlocksFinalizationCheckpointsConstructorResults.reported
    (results : AncestorBlocksFinalizationCheckpointsConstructorResults B) : List B :=
  results.passed_primary ++ results.passed_fallback ++ results.failed

namespace AncestorBlocksFinalizationCheckpointsConstructor

open AncestorBlocksFinalizationCheckpoints

variable {initial : AncestorBlocksFinalizationCheckpoints B}
  {self : AncestorBlocksFinalizationCheckpointsConstructor B}

/-- Under a well formed builder only fallback checkpoints fail a block. -/
theorem Consistent.mem_complete_failed (hc : Consistent initial self) (a : B) :
    a ∈ self.complete.failed ↔
      ∃ fallback, self.inherited_checkpoints.fallback.lookup a = some fallback ∧
        ∃ checkpoint ∈ fallback, checkpoint.deadline ≤ checkpoint.current_distance := by
  rw [self.mem_complete_failed a]
  refine or_iff_right ?_
  rintro ⟨checkpoint, hprimary, _, hfallback⟩
  exact hfallback (hc.well_formed.primary_has_fallback a (Iterate.mem_of_lookup_eq_some hprimary))

theorem Consistent.complete_well_formed (hc : Consistent initial self) :
    self.complete.remaining_checkpoints.WellFormed := by
  constructor
  · intro b hb
    rw [← AList.lookup_isSome, complete_primary_lookup] at hb
    rw [← AList.lookup_isSome, complete_fallback_lookup]
    split_ifs at hb ⊢ with hfailed
    · simp at hb
    · simp at hb
    · exact AList.lookup_isSome.mpr
        (hc.well_formed.primary_has_fallback b (AList.lookup_isSome.mp hb))
  · intro b fallback hb
    rw [complete_fallback_lookup] at hb
    split_ifs at hb
    exact hc.well_formed.fallback_nonempty b fallback hb

theorem Consistent.complete_in_time (hc : Consistent initial self) :
    self.complete.remaining_checkpoints.InTime := by
  constructor
  · intro b checkpoint hb
    rw [complete_primary_lookup] at hb
    split_ifs at hb with hfailed htransitioned
    refine Nat.lt_of_not_le fun hexpired => htransitioned ?_
    exact (self.mem_complete_transitioned b).mpr ⟨checkpoint, hb, hexpired,
      hc.well_formed.primary_has_fallback b (Iterate.mem_of_lookup_eq_some hb)⟩
  · intro b fallback hb checkpoint hcheckpoint
    rw [complete_fallback_lookup] at hb
    split_ifs at hb with hfailed
    exact Nat.lt_of_not_le fun hexpired =>
      hfailed ((hc.mem_complete_failed b).mpr ⟨fallback, hb, checkpoint, hcheckpoint, hexpired⟩)

/-- `complete` reports each block once: the blocks passed before it are no longer tracked, and
    the blocks it fails are tracked until it drops them. -/
theorem Consistent.complete_reported (hc : Consistent initial self) :
    self.complete.reported.Nodup ∧ ∀ b ∈ self.complete.reported,
      b ∈ initial.fallback ∧ b ∉ self.complete.remaining_checkpoints.fallback := by
  have htracked : ∀ b ∈ self.complete.failed, b ∈ self.inherited_checkpoints.fallback := by
    intro b hb
    obtain ⟨fallback, hfallback, _⟩ := (hc.mem_complete_failed b).mp hb
    exact Iterate.mem_of_lookup_eq_some hfallback
  have hfailed_nodup : self.complete.failed.Nodup := List.nodup_dedup _
  have huntracked : ∀ b, b ∈ self.complete.remaining_checkpoints.fallback →
      b ∈ self.inherited_checkpoints.fallback ∧ b ∉ self.complete.failed := by
    intro b hb
    rw [← AList.lookup_isSome, complete_fallback_lookup] at hb
    split_ifs at hb with hfailed
    · simp at hb
    · exact ⟨AList.lookup_isSome.mp hb, hfailed⟩
  refine ⟨List.nodup_append.mpr ⟨hc.reported_nodup, hfailed_nodup, ?_⟩, ?_⟩
  · intro b hb b' hb' hbb'
    subst hbb'
    exact hc.reported_untracked b hb (htracked b hb')
  · intro b hb
    rcases List.mem_append.mp hb with hpassed | hfailed
    · exact ⟨hc.reported_tracked b hpassed,
        fun h => hc.reported_untracked b hpassed (huntracked b h).1⟩
    · exact ⟨hc.tracked_shrinks b (htracked b hfailed), fun h => (huntracked b h).2 hfailed⟩

/-- `complete` tracks no block that was not tracked at the start. -/
theorem Consistent.complete_tracked (hc : Consistent initial self) (b : B)
    (hb : b ∈ self.complete.remaining_checkpoints.fallback) : b ∈ initial.fallback := by
  rw [← AList.lookup_isSome, complete_fallback_lookup] at hb
  split_ifs at hb
  · simp at hb
  · exact hc.tracked_shrinks b (AList.lookup_isSome.mp hb)

/-- What every `update` leaves, in whatever order the counts are noted: only checkpoints
    before their deadlines, still well formed, of blocks tracked before, and each reported
    block reported once, tracked before the update and not after it. -/
theorem update_spec {initial : AncestorBlocksFinalizationCheckpoints B} (hwf : initial.WellFormed)
    (attestation_count : List ((B × AttestationTargetType) × Nat)) :
    let results := initial.into_builder.update attestation_count
    results.remaining_checkpoints.WellFormed ∧ results.remaining_checkpoints.InTime ∧
      (∀ b, b ∈ results.remaining_checkpoints.fallback → b ∈ initial.fallback) ∧
      results.reported.Nodup ∧ ∀ b ∈ results.reported,
        b ∈ initial.fallback ∧ b ∉ results.remaining_checkpoints.fallback ∧
          b ∉ results.remaining_checkpoints.primary := by
  intro results
  have hc : Consistent initial (attestation_count.foldl
      (fun self entry => self.note entry.1.1 entry.1.2 entry.2) initial.into_builder) :=
    Iterate.foldl_invariant (Consistent initial)
      (fun entry _ builder hc => hc.note entry.1.1 entry.1.2 entry.2)
      (into_builder_consistent hwf)
  have hwf' := hc.complete_well_formed
  obtain ⟨hnodup, hreported⟩ := hc.complete_reported
  refine ⟨hwf', hc.complete_in_time, hc.complete_tracked, hnodup,
    fun b hb => ⟨(hreported b hb).1, (hreported b hb).2, ?_⟩⟩
  exact fun h => (hreported b hb).2 (hwf'.primary_has_fallback b h)

end AncestorBlocksFinalizationCheckpointsConstructor

end ackinacki.node.block_state
