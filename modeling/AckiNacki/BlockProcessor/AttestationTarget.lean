import AckiNacki.BlockState.Checkpoints
import AckiNacki.BlockKeeper.ProducerSelector
import AckiNacki.Statistics.BlockStatistics
import AckiNacki.Lib.Run

namespace ackinacki.node.services.block_processor

open ackinacki.types ackinacki.node.block_state ackinacki.node.services.statistics

def MAX_ATTESTATION_TARGET_BETA : Nat := 30

/-- The generation deadline of a block's primary attestation target, from the median of the
    block's statistics and the parent's targets. -/
def descendant_generations (median_descendants_chain_length_to_meet_threshold : Nat)
    (parent_attestation_target : AttestationTargets) : Nat :=
  if median_descendants_chain_length_to_meet_threshold <
      parent_attestation_target.primary.generation_deadline then
    parent_attestation_target.primary.generation_deadline - 1
  else if median_descendants_chain_length_to_meet_threshold < MAX_ATTESTATION_TARGET_BETA then
    median_descendants_chain_length_to_meet_threshold
  else MAX_ATTESTATION_TARGET_BETA

/-- The targets set on a block: the primary one wants two thirds of the block keeper set
    (`(2 * bk_set_len).div_ceil(3)`) within `descendant_generations`, the fallback one a
    majority within twice as many and one more. `none` is the panic of `2 * bk_set_len` or
    `2 * descendant_generations + 1` going past `usize::MAX`, which the release profile checks. -/
def attestation_targets (bk_set_len descendant_generations : Nat) : Option AttestationTargets :=
  if 2 * bk_set_len > USIZE_MAX ∨ 2 * descendant_generations + 1 > USIZE_MAX then none
  else
    some
      { primary := ⟨descendant_generations, (2 * bk_set_len + 3 - 1) / 3⟩
        fallback := ⟨2 * descendant_generations + 1, (bk_set_len >>> 1) + 1⟩ }

/-- What a block carries for its descendants: its statistics and its attestation targets. -/
structure ConsensusParams where
  block_stats : BlockStatistics
  attestation_target : AttestationTargets
  deriving DecidableEq, Repr

/-- The part of `process_candidate_block` that sets a block's statistics and attestation
    targets from its parent's, given the distances at which the blocks its parent finalized
    were finalized, sorted by sequence number, and the size of its block keeper set; `none` is
    a panic of `next` or of `attestation_targets`. -/
def calc_consensus_params (parent : ConsensusParams)
    (finalized_block_distances_sorted_by_seq_no : List Nat) (bk_set_len : Nat) :
    Option ConsensusParams := do
  let cur_block_stats ←
    parent.block_stats.next finalized_block_distances_sorted_by_seq_no none
  let attestation_target ← attestation_targets bk_set_len
    (descendant_generations cur_block_stats.median_descendants_chain_length_to_meet_threshold
      parent.attestation_target)
  pure { block_stats := cur_block_stats, attestation_target }

/-- The zero state block's, as the node sets them up. -/
def zero_state_consensus_params : ConsensusParams where
  block_stats := BlockStatistics.zero 15 3
  attestation_target := ⟨⟨3, 0⟩, ⟨7, 0⟩⟩

/-- What processing a block reads off it and its parent's state besides the parameters. -/
structure CandidateBlock where
  finalized_block_distances_sorted_by_seq_no : List Nat
  bk_set_len : Nat
  deriving DecidableEq, Repr

/-- Processing a block on top of the last one; it outputs the block's parameters. -/
def block_step (parent : ConsensusParams) (block : CandidateBlock) :
    Option (ConsensusParams × ConsensusParams) :=
  (calc_consensus_params parent block.finalized_block_distances_sorted_by_seq_no
    block.bk_set_len).map fun params => (params, params)

/-- A sample chain of two blocks, on statistics of three slots preset to two, and what processing
    it outputs. -/
def sample_chain : List CandidateBlock := [⟨[5, 1], 4⟩, ⟨[4], 4⟩]

def sample_start : ConsensusParams :=
  ⟨BlockStatistics.zero (Nat.succPNat 2) (Nat.succPNat 1), ⟨⟨3, 0⟩, ⟨7, 0⟩⟩⟩

def sample_trace : List (CandidateBlock × ConsensusParams) :=
  [(⟨[5, 1], 4⟩, ⟨⟨[5, 1, 2], 2, 2⟩, ⟨⟨2, 3⟩, ⟨5, 3⟩⟩⟩),
    (⟨[4], 4⟩, ⟨⟨[5, 1, 4], 0, 4⟩, ⟨⟨4, 3⟩, ⟨9, 3⟩⟩⟩)]

/-- The distances the blocks of a chain pass to `next`, in order. -/
def chain_distances (blocks : List CandidateBlock) : List Nat :=
  (blocks.map CandidateBlock.finalized_block_distances_sorted_by_seq_no).flatten

@[simp]
theorem chain_distances_append (blocks blocks' : List CandidateBlock) :
    chain_distances (blocks ++ blocks') = chain_distances blocks ++ chain_distances blocks' := by
  simp [chain_distances]

@[simp]
theorem chain_distances_singleton (block : CandidateBlock) :
    chain_distances [block] = block.finalized_block_distances_sorted_by_seq_no := by
  simp [chain_distances]

/-- With a positive median and a parent deadline at most one past the cap, the deadline is the
    median capped, or one less than the parent's if that is more. -/
theorem descendant_generations_eq_max {median : Nat} (hmedian : 0 < median)
    {parent_attestation_target : AttestationTargets}
    (hparent : parent_attestation_target.primary.generation_deadline ≤
      MAX_ATTESTATION_TARGET_BETA + 1) :
    descendant_generations median parent_attestation_target =
      max (parent_attestation_target.primary.generation_deadline - 1)
        (min median MAX_ATTESTATION_TARGET_BETA) := by
  rw [descendant_generations]
  split_ifs <;> omega

theorem descendant_generations_pos {median : Nat} (hmedian : 0 < median)
    (parent_attestation_target : AttestationTargets) :
    0 < descendant_generations median parent_attestation_target := by
  rw [descendant_generations, MAX_ATTESTATION_TARGET_BETA]
  split_ifs <;> omega

theorem descendant_generations_le {median : Nat} {parent_attestation_target : AttestationTargets}
    (hparent : parent_attestation_target.primary.generation_deadline ≤
      MAX_ATTESTATION_TARGET_BETA + 1) :
    descendant_generations median parent_attestation_target ≤ MAX_ATTESTATION_TARGET_BETA := by
  rw [descendant_generations]
  split_ifs <;> omega

theorem attestation_targets_deadline {bk_set_len descendant_generations : Nat}
    {targets : AttestationTargets}
    (h : attestation_targets bk_set_len descendant_generations = some targets) :
    targets.primary.generation_deadline = descendant_generations := by
  unfold attestation_targets at h
  split_ifs at h
  cases h
  rfl

/-- With a block keeper set of at most half `usize::MAX` members, which every Rust collection
    has, and a deadline within the cap, the targets are set without an overflow. -/
theorem attestation_targets_isSome {bk_set_len descendant_generations : Nat}
    (hbk_set : 2 * bk_set_len ≤ USIZE_MAX)
    (hdeadline : descendant_generations ≤ MAX_ATTESTATION_TARGET_BETA) :
    (attestation_targets bk_set_len descendant_generations).isSome := by
  have hfits : ¬(2 * bk_set_len > USIZE_MAX ∨ 2 * descendant_generations + 1 > USIZE_MAX) := by
    rw [MAX_ATTESTATION_TARGET_BETA] at hdeadline
    rw [USIZE_MAX] at hbk_set ⊢
    omega
  rw [attestation_targets, if_neg hfits]
  rfl

/-- What processing a block computes: the parent's statistics moved on by the distances, and the
    targets from their median. -/
theorem block_step_eq_some {parent output params : ConsensusParams} {block : CandidateBlock}
    (h : block_step parent block = some (output, params)) :
    output = params ∧
      parent.block_stats.next block.finalized_block_distances_sorted_by_seq_no none =
        some params.block_stats ∧
      attestation_targets block.bk_set_len
        (descendant_generations params.block_stats.median_descendants_chain_length_to_meet_threshold
          parent.attestation_target) = some params.attestation_target := by
  simp only [block_step, calc_consensus_params, Option.bind_eq_bind, Option.pure_def,
    Option.map_eq_some_iff, Option.bind_eq_some_iff, Option.some.injEq] at h
  obtain ⟨_, ⟨block_stats, hnext, attestation_target, htargets, rfl⟩, hpair⟩ := h
  obtain ⟨rfl, rfl⟩ := Prod.mk.inj hpair
  exact ⟨rfl, hnext, htargets⟩

/-- On top of statistics it never panics on and a deadline at most one past the cap, processing
    a block with a block keeper set of at most half `usize::MAX` members does not panic. -/
theorem block_step_isSome {parent : ConsensusParams} (h : parent.block_stats.Valid)
    (hdeadline : parent.attestation_target.primary.generation_deadline ≤
      MAX_ATTESTATION_TARGET_BETA + 1)
    {block : CandidateBlock} (hbk_set : 2 * block.bk_set_len ≤ USIZE_MAX) :
    (block_step parent block).isSome := by
  obtain ⟨next_stats, hnext, hvalid⟩ :=
    BlockStatistics.next_valid h block.finalized_block_distances_sorted_by_seq_no none
  have hle : descendant_generations next_stats.median_descendants_chain_length_to_meet_threshold
      parent.attestation_target ≤ MAX_ATTESTATION_TARGET_BETA := descendant_generations_le hdeadline
  obtain ⟨targets, htargets⟩ := Option.isSome_iff_exists.mp (attestation_targets_isSome hbk_set hle)
  simp [block_step, calc_consensus_params, hnext, htargets]

/-- Processing a block keeps statistics it never panics on. -/
theorem block_step_valid {parent output params : ConsensusParams} {block : CandidateBlock}
    (h : block_step parent block = some (output, params)) (hparent : parent.block_stats.Valid) :
    params.block_stats.Valid := by
  obtain ⟨next_stats, hnext, hvalid⟩ :=
    BlockStatistics.next_valid hparent block.finalized_block_distances_sorted_by_seq_no none
  rw [(block_step_eq_some h).2.1] at hnext
  rwa [Option.some.inj hnext]

/-- After a chain from the zero state's statistics, the ring holds every distance passed on so
    far, newest first over the preset slots, and the median is the element of middle rank among
    the newest of them. -/
structure HoldsNewest (w p : ℕ+) (blocks : List CandidateBlock) (params : ConsensusParams) :
    Prop where
  holds : Ring.Holds params.block_stats.stats params.block_stats.cursor
    ((chain_distances blocks).reverse ++ List.replicate (w : Nat) (p : Nat))
  length_eq : params.block_stats.stats.length = w
  median_isRank : ∃ median,
    Select.IsRank (((chain_distances blocks).reverse ++ List.replicate (w : Nat) (p : Nat)).take (w : Nat)) ((w : Nat) / 2) median ∧
      params.block_stats.median_descendants_chain_length_to_meet_threshold =
        if 0 < median then median else 1

theorem holdsNewest_zero (w p : ℕ+) (attestation_target : AttestationTargets) :
    HoldsNewest w p [] ⟨BlockStatistics.zero w p, attestation_target⟩ where
  holds := by simpa [chain_distances, BlockStatistics.zero] using Ring.Holds.replicate w.pos (p : Nat)
  length_eq := by simp [BlockStatistics.zero]
  median_isRank := ⟨p, by
    simpa [chain_distances, BlockStatistics.zero, p.pos] using
      Select.isRank_replicate (Nat.div_lt_self w.pos Nat.one_lt_two) (p : Nat)⟩

theorem HoldsNewest.step {w p : ℕ+} {blocks : List CandidateBlock} {parent output params}
    {block : CandidateBlock} (hparent : HoldsNewest w p blocks parent)
    (h : block_step parent block = some (output, params)) :
    HoldsNewest w p (blocks ++ [block]) params := by
  obtain ⟨-, hnext, -⟩ := block_step_eq_some h
  obtain ⟨hholds, hlength⟩ := BlockStatistics.next_holds hparent.holds hnext
  have hhistory : (chain_distances (blocks ++ [block])).reverse ++ List.replicate (w : Nat) (p : Nat) =
      block.finalized_block_distances_sorted_by_seq_no.reverse ++
        ((chain_distances blocks).reverse ++ List.replicate (w : Nat) (p : Nat)) := by
    simp
  obtain ⟨-, median, hmedian, hthreshold⟩ := BlockStatistics.next_eq_some hnext
  rw [← hhistory] at hholds
  have hlength' : params.block_stats.stats.length = w := hlength.trans hparent.length_eq
  refine ⟨hholds, hlength', median, ?_, hthreshold⟩
  have hrank := BlockStatistics.median_isRank hholds hmedian
  rwa [hlength'] at hrank

/-- Along any chain of blocks from the zero state's statistics, of `w` slots preset to `p`, the
    median of the last block's statistics is the element of rank `w / 2` among the newest `w`
    distances passed on along the chain, padded with `p` while fewer have been, raised to one if
    it is zero. -/
theorem median_is_rank_of_newest_distances (w p : ℕ+) (attestation_target : AttestationTargets)
    {blocks : List CandidateBlock} {trace : List (CandidateBlock × ConsensusParams)}
    {last : ConsensusParams}
    (h : Run.run block_step ⟨BlockStatistics.zero w p, attestation_target⟩ blocks =
      some (trace, last)) :
    ∃ median,
      Select.IsRank (((chain_distances blocks).reverse ++ List.replicate (w : Nat) (p : Nat)).take (w : Nat)) ((w : Nat) / 2)
        median ∧
      last.block_stats.median_descendants_chain_length_to_meet_threshold =
        if 0 < median then median else 1 := by
  have hnewest := Run.run_invariant_prefix (HoldsNewest w p)
    (fun _ _ _ _ _ _ hstep hparent => hparent.step hstep) h
    (holdsNewest_zero w p attestation_target)
  rw [List.nil_append] at hnewest
  exact hnewest.median_isRank

theorem median_of_sample_chain :
    ∃ median,
      Select.IsRank (((chain_distances sample_chain).reverse ++ List.replicate ((3 : ℕ+) : Nat) ((2 : ℕ+) : Nat)).take
        ((3 : ℕ+) : Nat)) (((3 : ℕ+) : Nat) / 2) median ∧
      (4 : Nat) = if 0 < median then median else 1 :=
  median_is_rank_of_newest_distances 3 2 ⟨⟨3, 0⟩, ⟨7, 0⟩⟩
    (show Run.run block_step sample_start sample_chain =
      some (sample_trace, ⟨⟨[5, 1, 4], 0, 4⟩, ⟨⟨4, 3⟩, ⟨9, 3⟩⟩⟩) by decide +kernel)

/-- A block's primary deadline follows the median of its statistics from its parent's: the median
    capped at `MAX_ATTESTATION_TARGET_BETA`, or one less than the parent's if that is more, and
    so between one and the cap. -/
structure FollowsMedian (parent params : ConsensusParams) : Prop where
  deadline_eq : params.attestation_target.primary.generation_deadline =
    max (parent.attestation_target.primary.generation_deadline - 1)
      (min params.block_stats.median_descendants_chain_length_to_meet_threshold
        MAX_ATTESTATION_TARGET_BETA)
  deadline_pos : 0 < params.attestation_target.primary.generation_deadline
  deadline_le : params.attestation_target.primary.generation_deadline ≤ MAX_ATTESTATION_TARGET_BETA

/-- Processing a block on a parent with statistics it never panics on and a deadline within the
    cap keeps both, and the block's deadline follows its median from the parent's. -/
theorem block_step_follows_median {parent output params : ConsensusParams}
    {block : CandidateBlock} (h : block_step parent block = some (output, params))
    (hparent : parent.block_stats.Valid ∧
      parent.attestation_target.primary.generation_deadline ≤ MAX_ATTESTATION_TARGET_BETA) :
    (params.block_stats.Valid ∧
      params.attestation_target.primary.generation_deadline ≤ MAX_ATTESTATION_TARGET_BETA) ∧
      output = params ∧ FollowsMedian parent params := by
  obtain ⟨rfl, -, htarget⟩ := block_step_eq_some h
  have hvalid := block_step_valid h hparent.1
  have hparent' : parent.attestation_target.primary.generation_deadline ≤
      MAX_ATTESTATION_TARGET_BETA + 1 := Nat.le_succ_of_le hparent.2
  have hdeadline : output.attestation_target.primary.generation_deadline =
      descendant_generations output.block_stats.median_descendants_chain_length_to_meet_threshold
        parent.attestation_target := attestation_targets_deadline htarget
  have hle : descendant_generations
      output.block_stats.median_descendants_chain_length_to_meet_threshold
      parent.attestation_target ≤ MAX_ATTESTATION_TARGET_BETA := descendant_generations_le hparent'
  refine ⟨⟨hvalid, hdeadline ▸ hle⟩, rfl, ?_, ?_, hdeadline ▸ hle⟩
  · rw [hdeadline, descendant_generations_eq_max hvalid.median_pos hparent']
  · rw [hdeadline]
    exact descendant_generations_pos hvalid.median_pos _

/-- Along any chain of blocks from statistics that never panic and a deadline within the cap,
    with block keeper sets of at most half `usize::MAX` members, processing never panics. -/
theorem chain_never_panics {start : ConsensusParams} (hstart : start.block_stats.Valid)
    (hdeadline : start.attestation_target.primary.generation_deadline ≤
      MAX_ATTESTATION_TARGET_BETA)
    (blocks : List CandidateBlock) (hbk_set : ∀ block ∈ blocks, 2 * block.bk_set_len ≤ USIZE_MAX) :
    (Run.run block_step start blocks).isSome :=
  Run.run_isSome (fun params => params.block_stats.Valid ∧
      params.attestation_target.primary.generation_deadline ≤ MAX_ATTESTATION_TARGET_BETA)
    (fun _ _ _ _ _ hstep hparent => (block_step_follows_median hstep hparent).1)
    (fun block hblock _ hparent =>
      block_step_isSome hparent.1 (Nat.le_succ_of_le hparent.2) (hbk_set block hblock))
    ⟨hstart, hdeadline⟩

theorem sample_chain_never_panics :
    (BlockStatistics.zero 15 3).Valid ∧
      zero_state_consensus_params.attestation_target.primary.generation_deadline ≤
        MAX_ATTESTATION_TARGET_BETA ∧
      (∀ block ∈ sample_chain, 2 * block.bk_set_len ≤ USIZE_MAX) ∧
      (Run.run block_step zero_state_consensus_params sample_chain).isSome :=
  ⟨BlockStatistics.zero_valid 15 3, by decide, by decide,
    chain_never_panics (BlockStatistics.zero_valid 15 3) (by decide) sample_chain (by decide)⟩

/-- Along any chain of blocks from statistics that never panic and a deadline within the cap,
    every block's deadline follows its median from its parent's. -/
theorem deadline_follows_median {start : ConsensusParams} (hstart : start.block_stats.Valid)
    (hdeadline : start.attestation_target.primary.generation_deadline ≤
      MAX_ATTESTATION_TARGET_BETA)
    {blocks : List CandidateBlock} {trace : List (CandidateBlock × ConsensusParams)}
    {last : ConsensusParams} (h : Run.run block_step start blocks = some (trace, last)) :
    (start :: trace.map Prod.snd).IsChain FollowsMedian :=
  Run.run_isChain (fun params => params.block_stats.Valid ∧
      params.attestation_target.primary.generation_deadline ≤ MAX_ATTESTATION_TARGET_BETA)
    FollowsMedian (fun _ _ _ _ _ hstep hparent => block_step_follows_median hstep hparent) h
    ⟨hstart, hdeadline⟩

theorem sample_chain_deadlines_follow_median :
    (sample_start :: sample_trace.map Prod.snd).IsChain FollowsMedian :=
  deadline_follows_median (BlockStatistics.zero_valid 3 2) (by decide)
    (show Run.run block_step sample_start sample_chain =
      some (sample_trace, ⟨⟨[5, 1, 4], 0, 4⟩, ⟨⟨4, 3⟩, ⟨9, 3⟩⟩⟩) by decide +kernel)

end ackinacki.node.services.block_processor
