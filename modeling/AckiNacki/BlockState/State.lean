import AckiNacki.BlockState.Checkpoints

namespace ackinacki.node.block_state

/-- The fields of `AckiNackiBlockState` that finalization and the checkpoints read. Of the
    bad block accusers only their number is read, and of the known children only the union
    over all threads. -/
structure AckiNackiBlockState (B T : Type) where
  block_identifier : B
  block_seq_no : Option Nat
  thread_identifier : Option T
  parent_block_identifier : Option B
  block_height : Option Nat
  signatures_verified : Option Bool
  applied : Option Bool
  validated : Option Bool
  finalizes_blocks : Option (List B)
  ancestor_blocks_finalization_checkpoints : Option (AncestorBlocksFinalizationCheckpoints B)
  finalized : Option Bool
  invalidated : Option Bool
  bad_block_accusers : Nat
  has_parent_finalized : Option Bool
  has_all_cross_thread_references_finalized : Option Bool
  has_all_cross_thread_ref_data_available : Option Bool
  has_cross_thread_ref_data_prepared : Option Bool
  attestation_target : Option AttestationTargets
  known_children : List B

namespace AckiNackiBlockState

variable {B T : Type}

/-- `AckiNackiBlockState::new`: nothing known yet, and cross-thread references are taken as
    finalized. -/
def new (block_identifier : B) : AckiNackiBlockState B T :=
  ⟨block_identifier, none, none, none, none, none, none, none, none, none, none, none, 0, none,
    some true, none, none, none, []⟩

def is_finalized (self : AckiNackiBlockState B T) : Bool := self.finalized == some true

def is_invalidated (self : AckiNackiBlockState B T) : Bool := self.invalidated == some true

def is_signatures_verified (self : AckiNackiBlockState B T) : Bool :=
  self.signatures_verified == some true

def is_block_already_applied (self : AckiNackiBlockState B T) : Bool := self.applied == some true

def has_bad_block_nacks_resolved (self : AckiNackiBlockState B T) : Bool :=
  self.bad_block_accusers == 0 || self.validated == some true

def has_all_nacks_resolved (self : AckiNackiBlockState B T) : Bool :=
  self.has_bad_block_nacks_resolved

def can_be_finalized (self : AckiNackiBlockState B T) : Bool :=
  self.is_signatures_verified && !self.is_invalidated && self.has_all_nacks_resolved &&
    self.is_block_already_applied && self.has_parent_finalized == some true &&
    self.has_all_cross_thread_references_finalized == some true &&
    self.has_all_cross_thread_ref_data_available == some true &&
    self.has_cross_thread_ref_data_prepared == some true

def set_finalized (self : AckiNackiBlockState B T) : AckiNackiBlockState B T :=
  { self with finalized := some true }

def set_invalidated (self : AckiNackiBlockState B T) : AckiNackiBlockState B T :=
  { self with invalidated := some true }

def set_parent_block_identifier (self : AckiNackiBlockState B T) (block_identifier : B) :
    AckiNackiBlockState B T :=
  { self with parent_block_identifier := some block_identifier }

def set_has_parent_finalized (self : AckiNackiBlockState B T) : AckiNackiBlockState B T :=
  { self with has_parent_finalized := some true }

/-- `add_child`: the child joins the known children. -/
def add_child [DecidableEq B] (self : AckiNackiBlockState B T) (child_block_identifier : B) :
    AckiNackiBlockState B T :=
  if child_block_identifier ∈ self.known_children then self
  else { self with known_children := self.known_children ++ [child_block_identifier] }

@[simp]
theorem is_finalized_set_finalized (self : AckiNackiBlockState B T) :
    self.set_finalized.is_finalized = true := rfl

@[simp]
theorem is_invalidated_set_invalidated (self : AckiNackiBlockState B T) :
    self.set_invalidated.is_invalidated = true := rfl

@[simp]
theorem is_finalized_set_invalidated (self : AckiNackiBlockState B T) :
    self.set_invalidated.is_finalized = self.is_finalized := rfl

/-- A block ready to be finalized is not invalidated, and knows that its parent is finalized. -/
theorem flags_of_can_be_finalized {self : AckiNackiBlockState B T}
    (h : self.can_be_finalized = true) :
    self.is_invalidated = false ∧ self.has_parent_finalized = some true := by
  simp only [can_be_finalized, Bool.and_eq_true, Bool.not_eq_true', beq_iff_eq] at h
  exact ⟨h.1.1.1.1.1.1.2, h.1.1.1.2⟩

section Link

variable (self : AckiNackiBlockState B T)

@[simp]
theorem is_finalized_set_parent_block_identifier (b : B) :
    (self.set_parent_block_identifier b).is_finalized = self.is_finalized := rfl

@[simp]
theorem is_invalidated_set_parent_block_identifier (b : B) :
    (self.set_parent_block_identifier b).is_invalidated = self.is_invalidated := rfl

@[simp]
theorem known_children_set_parent_block_identifier (b : B) :
    (self.set_parent_block_identifier b).known_children = self.known_children := rfl

@[simp]
theorem has_parent_finalized_set_parent_block_identifier (b : B) :
    (self.set_parent_block_identifier b).has_parent_finalized = self.has_parent_finalized := rfl

@[simp]
theorem is_finalized_set_has_parent_finalized :
    self.set_has_parent_finalized.is_finalized = self.is_finalized := rfl

@[simp]
theorem is_invalidated_set_has_parent_finalized :
    self.set_has_parent_finalized.is_invalidated = self.is_invalidated := rfl

@[simp]
theorem known_children_set_has_parent_finalized :
    self.set_has_parent_finalized.known_children = self.known_children := rfl

variable [DecidableEq B] (child : B)

@[simp]
theorem is_finalized_add_child : (self.add_child child).is_finalized = self.is_finalized := by
  unfold add_child
  split_ifs <;> rfl

@[simp]
theorem is_invalidated_add_child : (self.add_child child).is_invalidated = self.is_invalidated := by
  unfold add_child
  split_ifs <;> rfl

@[simp]
theorem has_parent_finalized_add_child :
    (self.add_child child).has_parent_finalized = self.has_parent_finalized := by
  unfold add_child
  split_ifs <;> rfl

theorem mem_known_children_add_child {c : B} :
    c ∈ (self.add_child child).known_children ↔ c ∈ self.known_children ∨ c = child := by
  unfold add_child
  split_ifs with hmem
  · constructor
    · exact .inl
    · rintro (hc | rfl)
      · exact hc
      · exact hmem
  · simp

end Link

end AckiNackiBlockState

variable {B T : Type} [DecidableEq B] [DecidableEq T]

/-- `inherit_ancestor_blocks_finalization_distances`: within a thread every inherited checkpoint
    moves one block further; then the block's own primary checkpoint and its two fallback
    checkpoints are added at distance `0`. -/
def inherit_ancestor_blocks_finalization_distances (parent_block_state block_state : AckiNackiBlockState B T) :
    Except String (AncestorBlocksFinalizationCheckpoints B) :=
  match parent_block_state.thread_identifier,
      parent_block_state.ancestor_blocks_finalization_checkpoints with
  | none, _ | _, none => .error "parent block is not ready"
  | some parent_block_thread_identifier, some ancestor_blocks_finalization_distances_prototype =>
    match block_state.thread_identifier with
    | none => .error "block is not ready: thread id is not set"
    | some thread_identifier =>
      match block_state.attestation_target with
      | none => .error "block is no ready: attestation target is not set"
      | some attestation_target =>
        let next : AncestorBlocksFinalizationCheckpoints B :=
          if thread_identifier = parent_block_thread_identifier then
            ⟨Iterate.map_values (fun _ => inherit_checkpoint)
                ancestor_blocks_finalization_distances_prototype.primary,
              Iterate.map_values (fun _ checkpoint => checkpoint.map inherit_checkpoint)
                ancestor_blocks_finalization_distances_prototype.fallback⟩
          else ⟨∅, ∅⟩
        .ok ⟨next.primary.insert block_state.block_identifier
            ⟨0, attestation_target.primary.generation_deadline,
              attestation_target.primary.required_attestation_count, .Primary⟩,
          next.fallback.insert block_state.block_identifier
            [⟨0, attestation_target.primary.generation_deadline,
                attestation_target.fallback.required_attestation_count, .Primary⟩,
              ⟨0, attestation_target.fallback.generation_deadline,
                attestation_target.fallback.required_attestation_count, .Fallback⟩]⟩

/-- The part of `process_block_attestations` that updates the checkpoints: the parent's are
    inherited and the block's verified attestation counts are noted against them. -/
def update_ancestor_distances (parent_block_state block_state : AckiNackiBlockState B T)
    (attestation_count : List ((B × AttestationTargetType) × Nat)) :
    Except String (AncestorBlocksFinalizationCheckpointsConstructorResults B) :=
  match inherit_ancestor_blocks_finalization_distances parent_block_state block_state with
  | .error e => .error e
  | .ok ancestor_distances => .ok (ancestor_distances.into_builder.update attestation_count)

open AncestorBlocksFinalizationCheckpoints AncestorBlocksFinalizationCheckpointsConstructor in
/-- What a block inherits: well formed checkpoints from well formed ones, tracking only the
    parent's blocks and the block itself. -/
theorem inherit_ancestor_blocks_finalization_distances_spec
    {parent_block_state block_state : AckiNackiBlockState B T}
    {next : AncestorBlocksFinalizationCheckpoints B}
    (h : inherit_ancestor_blocks_finalization_distances parent_block_state block_state = .ok next) :
    ∃ prototype, parent_block_state.ancestor_blocks_finalization_checkpoints = some prototype ∧
      (prototype.WellFormed → next.WellFormed) ∧
      ∀ b, b ∈ next.fallback → b = block_state.block_identifier ∨ b ∈ prototype.fallback := by
  unfold inherit_ancestor_blocks_finalization_distances at h
  split at h
  · cases h
  · cases h
  · next prototype _ hprototype =>
    split at h
    · cases h
    · split at h
      · cases h
      · cases h
        refine ⟨prototype, hprototype, fun hwf => ?_, fun b hb => ?_⟩
        · split_ifs
          · exact hwf.inherit.insert _ _ (List.cons_ne_nil _ _)
          · exact empty_well_formed.insert _ _ (List.cons_ne_nil _ _)
        · rw [AList.mem_insert] at hb
          refine hb.imp_right fun hb => ?_
          split_ifs at hb
          · exact (Iterate.mem_map_values _ _ _).mp hb
          · exact absurd hb (AList.notMem_empty _)

open AncestorBlocksFinalizationCheckpointsConstructor in
/-- Step lemma: a block whose parent has well-formed checkpoints leaves well-formed ones, reports
    each block once, and tracks or reports only itself and what its parent tracked; what it
    reports it tracks no more. -/
theorem update_ancestor_distances_step {checkpoints : AncestorBlocksFinalizationCheckpoints B}
    {parent_block_state block_state : AckiNackiBlockState B T}
    {attestation_count : List ((B × AttestationTargetType) × Nat)}
    {results : AncestorBlocksFinalizationCheckpointsConstructorResults B}
    (hparent : parent_block_state.ancestor_blocks_finalization_checkpoints = some checkpoints)
    (hwf : checkpoints.WellFormed)
    (hupdate : update_ancestor_distances parent_block_state block_state attestation_count =
      .ok results) :
    results.remaining_checkpoints.WellFormed ∧ results.reported.Nodup ∧
      (∀ b ∈ results.remaining_checkpoints.fallback,
        b = block_state.block_identifier ∨ b ∈ checkpoints.fallback) ∧
      ∀ b ∈ results.reported, (b = block_state.block_identifier ∨ b ∈ checkpoints.fallback) ∧
        b ∉ results.remaining_checkpoints.fallback := by
  unfold update_ancestor_distances at hupdate
  split at hupdate
  · cases hupdate
  · next next hinherit =>
    cases hupdate
    obtain ⟨prototype, hprototype, hnext_wf, hnext_tracked⟩ :=
      inherit_ancestor_blocks_finalization_distances_spec hinherit
    rw [hparent] at hprototype
    cases hprototype
    obtain ⟨hwf', _, hremaining, hnodup', hreported⟩ := update_spec (hnext_wf hwf) attestation_count
    exact ⟨hwf', hnodup', fun b hb => hnext_tracked b (hremaining b hb),
      fun b hb => ⟨hnext_tracked b (hreported b hb).1, (hreported b hb).2.1⟩⟩

/-- The checkpoints along a chain of blocks, with every block the chain has reported: each
    block, never reported before, inherits its parent's checkpoints and notes its attestation
    counts. -/
inductive CheckpointChain : AncestorBlocksFinalizationCheckpoints B → List B → Prop
  | start {checkpoints : AncestorBlocksFinalizationCheckpoints B} :
      checkpoints.WellFormed → CheckpointChain checkpoints []
  | step {checkpoints : AncestorBlocksFinalizationCheckpoints B} {reported : List B}
      {parent_block_state block_state : AckiNackiBlockState B T}
      {attestation_count : List ((B × AttestationTargetType) × Nat)}
      {results : AncestorBlocksFinalizationCheckpointsConstructorResults B} :
      CheckpointChain checkpoints reported →
      parent_block_state.ancestor_blocks_finalization_checkpoints = some checkpoints →
      block_state.block_identifier ∉ reported →
      update_ancestor_distances parent_block_state block_state attestation_count = .ok results →
      CheckpointChain results.remaining_checkpoints (reported ++ results.reported)

open AncestorBlocksFinalizationCheckpointsConstructor in
/-- Run lemma: along a chain the checkpoints stay well formed, no block is reported twice, in
    one list or in two, and a reported block is never tracked again. -/
theorem CheckpointChain.spec {checkpoints : AncestorBlocksFinalizationCheckpoints B}
    {reported : List B} (hchain : CheckpointChain (T := T) checkpoints reported) :
    checkpoints.WellFormed ∧ reported.Nodup ∧ ∀ b ∈ reported, b ∉ checkpoints.fallback := by
  induction hchain with
  | start hwf => exact ⟨hwf, List.nodup_nil, fun _ h => absurd h List.not_mem_nil⟩
  | @step checkpoints reported _ block_state _ _ _ hparent hfresh hupdate ih =>
    obtain ⟨hwf, hnodup, huntracked⟩ := ih
    obtain ⟨hwf', hnodup', hremaining, hreported⟩ := update_ancestor_distances_step hparent hwf hupdate
    have hgone : ∀ b ∈ reported, ¬ (b = block_state.block_identifier ∨ b ∈ checkpoints.fallback) :=
      fun b hb h => h.elim (fun hblock => hfresh (hblock ▸ hb)) (huntracked b hb)
    refine ⟨hwf', List.nodup_append.mpr ⟨hnodup, hnodup', ?_⟩, ?_⟩
    · intro b hb b' hb' hbb'
      subst hbb'
      exact hgone b hb (hreported b hb').1
    · intro b hb
      rcases List.mem_append.mp hb with hold | hnew
      · exact fun h => hgone b hold (hremaining b h)
      · exact (hreported b hnew).2

/-- A block of thread `0` whose primary target is `3` signatures within `3` blocks and whose
    fallback target is `1` signature within `5` blocks, with the given checkpoints. -/
def checkpoint_chain_block (block_identifier : Nat)
    (checkpoints : Option (AncestorBlocksFinalizationCheckpoints Nat)) :
    AckiNackiBlockState Nat Nat :=
  { (AckiNackiBlockState.new block_identifier : AckiNackiBlockState Nat Nat) with
    thread_identifier := some 0
    attestation_target := some ⟨⟨3, 3⟩, ⟨5, 1⟩⟩
    ancestor_blocks_finalization_checkpoints := checkpoints }

theorem update_depends_on_attestation_order :
    [((1, AttestationTargetType.Primary), 3), ((1, .Fallback), 1)].Perm
        [((1, .Fallback), 1), ((1, .Primary), 3)] ∧
      ∃ first second primary_first fallback_first,
        update_ancestor_distances (checkpoint_chain_block 0 (some ⟨∅, ∅⟩))
            (checkpoint_chain_block 1 none) [] = .ok first ∧
        update_ancestor_distances (checkpoint_chain_block 1 (some first.remaining_checkpoints))
            (checkpoint_chain_block 2 none) [((1, .Primary), 2)] = .ok second ∧
        update_ancestor_distances (checkpoint_chain_block 2 (some second.remaining_checkpoints))
            (checkpoint_chain_block 3 none) [((1, .Primary), 3), ((1, .Fallback), 1)] =
          .ok primary_first ∧
        update_ancestor_distances (checkpoint_chain_block 2 (some second.remaining_checkpoints))
            (checkpoint_chain_block 3 none) [((1, .Fallback), 1), ((1, .Primary), 3)] =
          .ok fallback_first ∧
        primary_first.passed_primary = [1] ∧ primary_first.passed_fallback = [] ∧
        fallback_first.passed_primary = [] ∧ fallback_first.passed_fallback = [1] :=
  ⟨List.Perm.swap _ _ _, _, _, _, _, rfl, rfl, rfl, rfl, rfl, rfl, rfl, rfl⟩

theorem checkpoint_chain_spec_on_sample :
    ∃ first second,
      update_ancestor_distances (checkpoint_chain_block 0 (some ⟨∅, ∅⟩))
          (checkpoint_chain_block 1 none) [] = .ok first ∧
        update_ancestor_distances (checkpoint_chain_block 1 (some first.remaining_checkpoints))
          (checkpoint_chain_block 2 none) [((1, .Primary), 2)] = .ok second ∧
        second.remaining_checkpoints.WellFormed ∧
        ([] ++ first.reported ++ second.reported).Nodup ∧
        ∀ b ∈ [] ++ first.reported ++ second.reported, b ∉ second.remaining_checkpoints.fallback := by
  have hfirst : update_ancestor_distances (checkpoint_chain_block 0 (some ⟨∅, ∅⟩))
      (checkpoint_chain_block 1 none) [] = .ok _ := rfl
  have hchain := @CheckpointChain.step Nat Nat _ _ _ _ (checkpoint_chain_block 1 _)
    (checkpoint_chain_block 2 none) [((1, .Primary), 2)] _
    ((CheckpointChain.start AncestorBlocksFinalizationCheckpoints.empty_well_formed).step rfl
      List.not_mem_nil hfirst) rfl (by decide) rfl
  exact ⟨_, _, hfirst, rfl, hchain.spec⟩

end ackinacki.node.block_state
