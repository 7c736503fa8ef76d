import AckiNacki.CrossThread.ThreadReferences
import AckiNacki.Lib.Iterate

namespace ackinacki.multithreading.cross_thread_messaging

variable {B T : Type} [DecidableEq T]

/-- A sequence number is past the tail of a thread when the thread has no tail or an older one. -/
def PastTail (tails : AList (fun _ : T => ReferencedBlock B T)) (thread : T) (seq_no : Nat) :
    Prop :=
  ∀ tail, tails.lookup thread = some tail → tail.block_seq_no < seq_no

/-- The tail of a thread reaches a sequence number when it is at least that new. -/
def TailReaches (tails : AList (fun _ : T => ReferencedBlock B T)) (thread : T) (seq_no : Nat) :
    Prop :=
  ∃ tail, tails.lookup thread = some tail ∧ seq_no ≤ tail.block_seq_no

/-- No thread's tail is older than it was in `before`. -/
def Dominates (tails before : AList (fun _ : T => ReferencedBlock B T)) : Prop :=
  ∀ thread tail, before.lookup thread = some tail → TailReaches tails thread tail.block_seq_no

theorem PastTail.not_tailReaches {tails : AList (fun _ : T => ReferencedBlock B T)} {thread : T}
    {seq_no : Nat} (hpast : PastTail tails thread seq_no) : ¬ TailReaches tails thread seq_no := by
  rintro ⟨tail, hlookup, hle⟩
  have := hpast tail hlookup
  omega

theorem Dominates.refl (tails : AList (fun _ : T => ReferencedBlock B T)) : Dominates tails tails :=
  fun _ tail hlookup => ⟨tail, hlookup, le_rfl⟩

theorem Dominates.pastTail {tails before : AList (fun _ : T => ReferencedBlock B T)}
    (hdominates : Dominates tails before) {thread : T} {seq_no : Nat}
    (hpast : PastTail tails thread seq_no) : PastTail before thread seq_no := by
  intro tail0 hlookup0
  obtain ⟨tail, hlookup, hle⟩ := hdominates thread tail0 hlookup0
  have := hpast tail hlookup
  omega

section Insert

variable {tails : AList (fun _ : T => ReferencedBlock B T)} {block : ReferencedBlock B T}

/-- Moving a tail to a block older than a sequence number keeps that number past the tail. -/
theorem PastTail.insert {thread : T} {seq_no : Nat} (hpast : PastTail tails thread seq_no)
    (holder : block.block_seq_no < seq_no) :
    PastTail (tails.insert block.block_thread_identifier block) thread seq_no := by
  intro tail hlookup
  rcases Iterate.lookup_insert_eq_some.mp hlookup with ⟨-, rfl⟩ | ⟨-, hlookup⟩
  · exact holder
  · exact hpast tail hlookup

/-- Moving a tail forward, to a block past it, keeps every number the tails reached. -/
theorem TailReaches.insert {thread : T} {seq_no : Nat} (hreaches : TailReaches tails thread seq_no)
    (hpast : PastTail tails block.block_thread_identifier block.block_seq_no) :
    TailReaches (tails.insert block.block_thread_identifier block) thread seq_no := by
  obtain ⟨tail, hlookup, hle⟩ := hreaches
  by_cases hthread : thread = block.block_thread_identifier
  · subst hthread
    have := hpast tail hlookup
    exact ⟨block, AList.lookup_insert _, by omega⟩
  · exact ⟨tail, by rw [AList.lookup_insert_ne hthread]; exact hlookup, hle⟩

theorem tailReaches_insert_self :
    TailReaches (tails.insert block.block_thread_identifier block) block.block_thread_identifier
      block.block_seq_no :=
  ⟨block, AList.lookup_insert _, le_rfl⟩

theorem Dominates.insert {before : AList (fun _ : T => ReferencedBlock B T)}
    (hdominates : Dominates tails before)
    (hpast : PastTail tails block.block_thread_identifier block.block_seq_no) :
    Dominates (tails.insert block.block_thread_identifier block) before :=
  fun thread tail hlookup => (hdominates thread tail hlookup).insert hpast

end Insert

/-- One turn of the loop of `keep_tails`. -/
def keep_tail (tails : AList (fun _ : T => ReferencedBlock B T)) (block : ReferencedBlock B T) :
    AList (fun _ : T => ReferencedBlock B T) :=
  match tails.lookup block.block_thread_identifier with
  | some e =>
    if block.block_seq_no > e.block_seq_no then tails.insert block.block_thread_identifier block
    else tails
  | none => tails.insert block.block_thread_identifier block

theorem keep_tails_eq (blocks : List (ReferencedBlock B T)) :
    keep_tails blocks = (blocks.foldl keep_tail ∅).entries.map fun entry => entry.2 :=
  rfl

/-- What one turn of `keep_tails` can do: move the tail to a block past it, or keep a tail that
    already reaches the block. -/
theorem keep_tail_cases (tails : AList (fun _ : T => ReferencedBlock B T))
    (block : ReferencedBlock B T) :
    (keep_tail tails block = tails.insert block.block_thread_identifier block ∧
        PastTail tails block.block_thread_identifier block.block_seq_no) ∨
      (keep_tail tails block = tails ∧
        TailReaches tails block.block_thread_identifier block.block_seq_no) := by
  unfold keep_tail
  cases hlookup : tails.lookup block.block_thread_identifier with
  | none => exact .inl ⟨rfl, fun tail h => by simp [hlookup] at h⟩
  | some e =>
    by_cases hnewer : block.block_seq_no > e.block_seq_no
    · refine .inl ⟨if_pos hnewer, fun tail h => ?_⟩
      rw [hlookup, Option.some.injEq] at h
      exact h ▸ hnewer
    · exact .inr ⟨if_neg hnewer, e, hlookup, by omega⟩

/-- Every tail of `keep_tails` is stored under its own thread. -/
def KeyedByThread (tails : AList (fun _ : T => ReferencedBlock B T)) : Prop :=
  ∀ thread tail, tails.lookup thread = some tail → tail.block_thread_identifier = thread

theorem KeyedByThread.keep_tail {tails : AList (fun _ : T => ReferencedBlock B T)}
    (hkeyed : KeyedByThread tails) (block : ReferencedBlock B T) :
    KeyedByThread (keep_tail tails block) := by
  rcases keep_tail_cases tails block with ⟨hturn, -⟩ | ⟨hturn, -⟩
  · rw [hturn]
    intro thread tail hlookup
    rcases Iterate.lookup_insert_eq_some.mp hlookup with ⟨rfl, rfl⟩ | ⟨-, hlookup⟩
    · rfl
    · exact hkeyed thread tail hlookup
  · rw [hturn]
    exact hkeyed

theorem TailReaches.keep_tail {tails : AList (fun _ : T => ReferencedBlock B T)} {thread : T}
    {seq_no : Nat} (hreaches : TailReaches tails thread seq_no) (block : ReferencedBlock B T) :
    TailReaches (keep_tail tails block) thread seq_no := by
  rcases keep_tail_cases tails block with ⟨hturn, hpast⟩ | ⟨hturn, -⟩
  · rw [hturn]
    exact hreaches.insert hpast
  · rw [hturn]
    exact hreaches

theorem tailReaches_keep_tail_self (tails : AList (fun _ : T => ReferencedBlock B T))
    (block : ReferencedBlock B T) :
    TailReaches (keep_tail tails block) block.block_thread_identifier block.block_seq_no := by
  rcases keep_tail_cases tails block with ⟨hturn, -⟩ | ⟨hturn, hreaches⟩
  · rw [hturn]
    exact tailReaches_insert_self
  · rw [hturn]
    exact hreaches

/-- After the loop of `keep_tails`, the tail of every block's thread reaches the block. -/
theorem tailReaches_foldl_keep_tail :
    ∀ {blocks : List (ReferencedBlock B T)} (tails : AList (fun _ : T => ReferencedBlock B T)),
      ∀ block ∈ blocks, TailReaches (blocks.foldl keep_tail tails) block.block_thread_identifier
        block.block_seq_no
  | [], _, _, hblock => absurd hblock List.not_mem_nil
  | first :: blocks, tails, block, hblock => by
    rw [List.foldl_cons]
    rcases List.mem_cons.mp hblock with rfl | hblock
    · exact Iterate.foldl_invariant
        (fun tails => TailReaches tails block.block_thread_identifier block.block_seq_no)
        (fun _ _ _ hreaches => hreaches.keep_tail _) (tailReaches_keep_tail_self _ _)
    · exact tailReaches_foldl_keep_tail _ block hblock

/-- The tails `move_refs` writes from `keep_tails`, over any map, reach every block given to
    `keep_tails`. -/
theorem tailReaches_foldl_insert_keep_tails (blocks : List (ReferencedBlock B T))
    (tails : AList (fun _ : T => ReferencedBlock B T)) {block : ReferencedBlock B T}
    (hblock : block ∈ blocks) :
    TailReaches ((keep_tails blocks).foldl (fun tails e => tails.insert e.block_thread_identifier e)
      tails) block.block_thread_identifier block.block_seq_no := by
  have hkeyed : KeyedByThread (blocks.foldl keep_tail ∅) :=
    Iterate.foldl_invariant KeyedByThread (fun block _ _ hkeyed => hkeyed.keep_tail block)
      (fun _ _ h => by simp at h)
  obtain ⟨tail, hlookup, hle⟩ := tailReaches_foldl_keep_tail ∅ block hblock
  have hthread : tail.block_thread_identifier = block.block_thread_identifier :=
    hkeyed _ tail hlookup
  have hmem : tail ∈ keep_tails blocks := by
    rw [keep_tails_eq]
    exact List.mem_map.mpr ⟨⟨_, tail⟩, AList.mem_lookup_iff.mp hlookup, rfl⟩
  have hnodup : ((keep_tails blocks).map fun e => e.block_thread_identifier).Nodup := by
    rw [keep_tails_eq, List.map_map]
    have hkeys : (blocks.foldl keep_tail ∅).entries.map
        ((fun e => e.block_thread_identifier) ∘ fun entry => entry.2) =
        (blocks.foldl keep_tail ∅).keys :=
      List.map_congr_left fun entry hentry => hkeyed _ _ (AList.mem_lookup_iff.mpr hentry)
    rw [hkeys]
    exact (blocks.foldl keep_tail ∅).keys_nodup
  exact ⟨tail, hthread ▸ Iterate.lookup_foldl_insert_key _ tails hnodup hmem, hle⟩

variable [DecidableEq B]

section Walk

variable {read : B → Except String (CrossThreadRefData B T)}
  (hparent : ∀ b block parent, read b = .ok block →
    read block.parent_block_identifier = .ok parent → parent.block_seq_no < block.block_seq_no)

include hparent in
/-- Run lemma of the walk back: it appends to the trail blocks that are read from the graph,
    past the tails it walks against, no newer than its cursor and newest first. -/
theorem walk_back_loop_trail {cutoff : AList (fun _ : T => ReferencedBlock B T)} :
    ∀ fuel (cursor : CrossThreadRefData B T) trail out, (∃ b, read b = .ok cursor) →
      walk_back_loop read cutoff fuel cursor trail = .ok out →
      ∃ added, out = trail ++ added ∧
        added.Pairwise (fun newer older => older.block_seq_no < newer.block_seq_no) ∧
        ∀ block ∈ added, PastTail cutoff block.block_thread_identifier block.block_seq_no ∧
          (∃ b, read b = .ok block) ∧ block.block_seq_no ≤ cursor.block_seq_no
  | 0, _, _, _, _, hwalk => by simp [walk_back_loop] at hwalk
  | fuel + 1, cursor, trail, out, ⟨b, hcursor⟩, hwalk => by
    unfold walk_back_loop at hwalk
    dsimp only at hwalk
    split_ifs at hwalk with hcut
    · refine ⟨[], ?_, List.Pairwise.nil, by simp⟩
      split at hwalk
      · split_ifs at hwalk
        cases hwalk
        simp
      · cases hwalk
        simp
    · split at hwalk
      · cases hwalk
      · next parent hread =>
        have hpast : PastTail cutoff cursor.block_thread_identifier cursor.block_seq_no := by
          intro tail hlookup
          rw [hlookup] at hcut
          simpa using hcut
        have holder : parent.block_seq_no < cursor.block_seq_no :=
          hparent b cursor parent hcursor hread
        obtain ⟨added, rfl, hpairwise, hadded⟩ :=
          walk_back_loop_trail fuel parent _ out ⟨_, hread⟩ hwalk
        refine ⟨cursor :: added, by simp, ?_, ?_⟩
        · exact List.pairwise_cons.mpr ⟨fun block hblock => by
            have := (hadded block hblock).2.2
            omega, hpairwise⟩
        · simp only [List.forall_mem_cons]
          refine ⟨⟨hpast, ⟨b, hcursor⟩, le_rfl⟩, fun block hblock => ?_⟩
          obtain ⟨hblock_past, hblock_read, hle⟩ := hadded block hblock
          exact ⟨hblock_past, hblock_read, by omega⟩

include hparent in
theorem walk_back_into_history_trail {cutoff : AList (fun _ : T => ReferencedBlock B T)}
    {fuel : Nat} {cursor : B} {trail : List (CrossThreadRefData B T)}
    (hwalk : walk_back_into_history read cutoff fuel cursor = .ok trail) :
    trail.Pairwise (fun newer older => older.block_seq_no < newer.block_seq_no) ∧
      ∀ block ∈ trail, PastTail cutoff block.block_thread_identifier block.block_seq_no ∧
        ∃ b, read b = .ok block := by
  unfold walk_back_into_history at hwalk
  split at hwalk
  · cases hwalk
  · next block hread =>
    obtain ⟨added, rfl, hpairwise, hadded⟩ :=
      walk_back_loop_trail hparent fuel block [] trail ⟨cursor, hread⟩ hwalk
    refine ⟨hpairwise, fun block hblock => ?_⟩
    obtain ⟨hpast, hread, -⟩ := hadded block hblock
    exact ⟨hpast, hread⟩

end Walk

/-- A block of the references is stored when its identifier reads the block it describes. -/
def Stored (read : B → Except String (CrossThreadRefData B T)) (block : ReferencedBlock B T) :
    Prop :=
  ∃ data, read block.block_identifier = .ok data ∧ data.as_reference_state_data = block

/-- The invariant of the work list, against the tails `before` the query: tails only move
    forward, every block passed is stored, was past its tail before the query and is reached by
    its tail now, no block is passed twice, and the explicit set names passed blocks once. -/
structure Imported (read : B → Except String (CrossThreadRefData B T))
    (before : AList (fun _ : T => ReferencedBlock B T)) (state : CanReferenceState B T) : Prop where
  dominates : Dominates state.tails before
  reached : ∀ block ∈ state.all_referenced_blocks,
    TailReaches state.tails block.block_thread_identifier block.block_seq_no
  past : ∀ block ∈ state.all_referenced_blocks,
    PastTail before block.block_thread_identifier block.block_seq_no
  stored : ∀ block ∈ state.all_referenced_blocks, Stored read block
  nodup : state.all_referenced_blocks.Nodup
  explicit_passed : ∀ b ∈ state.explicitly_referenced_set,
    ∃ block ∈ state.all_referenced_blocks, block.block_identifier = b
  explicit_nodup : state.explicitly_referenced_set.Nodup

variable {read : B → Except String (CrossThreadRefData B T)}

omit [DecidableEq B] in
theorem imported_start (before : AList (fun _ : T => ReferencedBlock B T)) (stack : List B) :
    Imported read before ⟨before, stack, [], []⟩ :=
  ⟨Dominates.refl before, by simp, by simp, by simp, List.nodup_nil, by simp, List.nodup_nil⟩

/-- Spec of the body of the loop over a trail, for a block past its tail: the tail moves to it,
    it is passed, and it is explicit unless some tail or the explicit set already had it. -/
theorem visit_block_of_pastTail {previously_referenced_set : List B}
    {state : CanReferenceState B T} {block : CrossThreadRefData B T}
    (hpast : PastTail state.tails block.block_thread_identifier block.block_seq_no) :
    visit_block previously_referenced_set state block =
      { tails := state.tails.insert block.block_thread_identifier block.as_reference_state_data
        stack := state.stack ++ block.refs
        all_referenced_blocks := state.all_referenced_blocks ++ [block.as_reference_state_data]
        explicitly_referenced_set :=
          if block.block_identifier ∉ previously_referenced_set ∧
              block.block_identifier ∉ state.explicitly_referenced_set then
            state.explicitly_referenced_set ++ [block.block_identifier]
          else state.explicitly_referenced_set } := by
  simp only [visit_block]
  rw [if_pos]
  · rfl
  · split
    · next existing hlookup => simpa using hpast existing hlookup
    · rfl

omit [DecidableEq B] in
/-- The invariant does not read the work list. -/
theorem Imported.with_stack {before : AList (fun _ : T => ReferencedBlock B T)}
    {state : CanReferenceState B T} (hinv : Imported read before state) (stack : List B) :
    Imported read before { state with stack } :=
  ⟨hinv.dominates, hinv.reached, hinv.past, hinv.stored, hinv.nodup, hinv.explicit_passed,
    hinv.explicit_nodup⟩

/-- Step lemma: passing a stored block past its tail keeps the invariant. -/
theorem Imported.visit {before : AList (fun _ : T => ReferencedBlock B T)}
    {state : CanReferenceState B T} (hinv : Imported read before state)
    (previously_referenced_set : List B) {block : CrossThreadRefData B T}
    (hpast : PastTail state.tails block.block_thread_identifier block.block_seq_no)
    (hread : read block.block_identifier = .ok block) :
    Imported read before (visit_block previously_referenced_set state block) := by
  rw [visit_block_of_pastTail hpast]
  have hpast_block : PastTail state.tails block.as_reference_state_data.block_thread_identifier
      block.as_reference_state_data.block_seq_no := hpast
  have hnew : block.as_reference_state_data ∉ state.all_referenced_blocks := fun hmem =>
    hpast.not_tailReaches (hinv.reached _ hmem)
  constructor
  · exact hinv.dominates.insert hpast_block
  · simp only [List.mem_append, List.mem_singleton]
    rintro passed (hpassed | rfl)
    · exact (hinv.reached passed hpassed).insert hpast_block
    · exact tailReaches_insert_self
  · simp only [List.mem_append, List.mem_singleton]
    rintro passed (hpassed | rfl)
    · exact hinv.past passed hpassed
    · exact hinv.dominates.pastTail hpast
  · simp only [List.mem_append, List.mem_singleton]
    rintro passed (hpassed | rfl)
    · exact hinv.stored passed hpassed
    · exact ⟨block, hread, rfl⟩
  · simpa only [List.concat_eq_append] using hinv.nodup.concat hnew
  · intro b hb
    have hpassed : ∀ b ∈ state.explicitly_referenced_set,
        ∃ passed ∈ state.all_referenced_blocks ++ [block.as_reference_state_data],
          passed.block_identifier = b := fun b hb => by
      obtain ⟨passed, hmem, hid⟩ := hinv.explicit_passed b hb
      exact ⟨passed, List.mem_append_left _ hmem, hid⟩
    split_ifs at hb
    · rcases List.mem_append.mp hb with hb | hb
      · exact hpassed b hb
      · rw [List.mem_singleton] at hb
        exact ⟨block.as_reference_state_data, by simp, hb.symm⟩
    · exact hpassed b hb
  · split_ifs with hexplicit
    · simpa only [List.concat_eq_append] using hinv.explicit_nodup.concat hexplicit.2
    · exact hinv.explicit_nodup

/-- A trail, oldest block first, each block past the tails and newer than the blocks before it,
    keeps the invariant: every tail the loop moves is to a block older than the rest. -/
theorem Imported.foldl_visit {before : AList (fun _ : T => ReferencedBlock B T)}
    (previously_referenced_set : List B) :
    ∀ (trail : List (CrossThreadRefData B T)) (state : CanReferenceState B T),
      Imported read before state →
      trail.Pairwise (fun older newer => older.block_seq_no < newer.block_seq_no) →
      (∀ block ∈ trail,
        PastTail state.tails block.block_thread_identifier block.block_seq_no ∧
          read block.block_identifier = .ok block) →
      Imported read before (trail.foldl (visit_block previously_referenced_set) state)
  | [], _, hinv, _, _ => hinv
  | block :: trail, state, hinv, hpairwise, htrail => by
    obtain ⟨hnewer, hpairwise⟩ := List.pairwise_cons.mp hpairwise
    obtain ⟨hpast, hread⟩ := htrail block List.mem_cons_self
    refine Imported.foldl_visit previously_referenced_set trail _
      (hinv.visit previously_referenced_set hpast hread) hpairwise fun later hlater => ?_
    rw [visit_block_of_pastTail hpast]
    obtain ⟨hlater_past, hlater_read⟩ := htrail later (List.mem_cons_of_mem _ hlater)
    have hmoved : PastTail (state.tails.insert block.as_reference_state_data.block_thread_identifier
        block.as_reference_state_data) later.block_thread_identifier later.block_seq_no :=
      hlater_past.insert (hnewer later hlater)
    exact ⟨hmoved, hlater_read⟩

/-- The blocks a state of the work list reports, explicit then implicit, are stored, were past
    their tails before the query, and are named once. -/
theorem Imported.reported {before : AList (fun _ : T => ReferencedBlock B T)}
    {state : CanReferenceState B T} (hinv : Imported read before state) :
    (state.explicitly_referenced_set ++
        (state.all_referenced_blocks.filter fun e =>
          e.block_identifier ∉ state.explicitly_referenced_set).map
            fun e => e.block_identifier).Nodup ∧
      ∀ b ∈ state.explicitly_referenced_set ++ (state.all_referenced_blocks.filter fun e =>
        e.block_identifier ∉ state.explicitly_referenced_set).map fun e => e.block_identifier,
        ∃ block, read b = .ok block ∧
          PastTail before block.block_thread_identifier block.block_seq_no := by
  have hinjective : ∀ x ∈ state.all_referenced_blocks, ∀ y ∈ state.all_referenced_blocks,
      x.block_identifier = y.block_identifier → x = y := by
    intro x hx y hy hxy
    obtain ⟨data_x, hread_x, rfl⟩ := hinv.stored x hx
    obtain ⟨data_y, hread_y, rfl⟩ := hinv.stored y hy
    rw [hxy, hread_y, Except.ok.injEq] at hread_x
    rw [hread_x]
  have himplicit_nodup : ((state.all_referenced_blocks.filter fun e =>
      e.block_identifier ∉ state.explicitly_referenced_set).map
        fun e => e.block_identifier).Nodup :=
    (hinv.nodup.filter _).map_on fun x hx y hy =>
      hinjective x (List.mem_of_mem_filter hx) y (List.mem_of_mem_filter hy)
  refine ⟨List.nodup_append.mpr ⟨hinv.explicit_nodup, himplicit_nodup, ?_⟩, ?_⟩
  · intro b hexplicit b' himplicit hb
    obtain ⟨passed, hpassed, rfl⟩ := List.mem_map.mp himplicit
    rw [List.mem_filter, decide_eq_true_iff] at hpassed
    exact hpassed.2 (hb ▸ hexplicit)
  · intro b hb
    obtain ⟨passed, hpassed, rfl⟩ : ∃ passed ∈ state.all_referenced_blocks,
        passed.block_identifier = b := by
      rcases List.mem_append.mp hb with hb | hb
      · exact hinv.explicit_passed b hb
      · obtain ⟨passed, hpassed, rfl⟩ := List.mem_map.mp hb
        exact ⟨passed, List.mem_of_mem_filter hpassed, rfl⟩
    obtain ⟨data, hread, rfl⟩ := hinv.stored passed hpassed
    exact ⟨data, hread, hinv.past _ hpassed⟩

/-- What a successful `move_refs` is made of: a query that says yes, the phantoms, the data of
    every reported block, and the tails of `keep_tails` written over the phantoms. -/
theorem move_refs_eq_ok {self : ThreadReferencesState B T} {refs : List B} {fuel : Nat}
    {referenced : List (CrossThreadRefData B T)} {after : ThreadReferencesState B T}
    (hmove : self.move_refs refs read fuel = .ok (referenced, after)) :
    ∃ implicit explicit phantoms,
      self.can_reference refs read fuel = .ok (.Yes ⟨implicit, explicit⟩) ∧
      ThreadReferencesState.add_phantoms read self.all_thread_refs (explicit ++ implicit) =
        .ok phantoms ∧
      (explicit ++ implicit).mapM read = .ok referenced ∧
      after.all_thread_refs =
        (keep_tails (referenced.map CrossThreadRefData.as_reference_state_data)).foldl
          (fun tails e => tails.insert e.block_thread_identifier e) phantoms := by
  unfold ThreadReferencesState.move_refs at hmove
  split at hmove
  · cases hmove
  · cases hmove
  · next implicit explicit hquery =>
    dsimp only at hmove
    split at hmove
    · cases hmove
    · next phantoms hphantoms =>
      split at hmove
      · cases hmove
      · next data hdata =>
        cases hmove
        exact ⟨implicit, explicit, phantoms, hquery, hphantoms, hdata, rfl⟩

section Graph

variable (hid : ∀ b block, read b = .ok block → block.block_identifier = b)
  (hparent : ∀ b block parent, read b = .ok block →
    read block.parent_block_identifier = .ok parent → parent.block_seq_no < block.block_seq_no)

include hid hparent in
/-- Run lemma of the work list: every query of the work list keeps the invariant. -/
theorem can_reference_loop_imported {before : AList (fun _ : T => ReferencedBlock B T)}
    (previously_referenced_set : List B) :
    ∀ fuel (state state' : CanReferenceState B T), Imported read before state →
      can_reference_loop read previously_referenced_set fuel state = .ok state' →
      Imported read before state'
  | 0, _, _, _, hloop => by simp [can_reference_loop] at hloop
  | fuel + 1, state, state', hinv, hloop => by
    unfold can_reference_loop at hloop
    split at hloop
    · cases hloop
      exact hinv
    · next cursor stack _ =>
      split at hloop
      · cases hloop
      · next trail hwalk =>
        obtain ⟨hpairwise, htrail⟩ := walk_back_into_history_trail hparent hwalk
        refine can_reference_loop_imported previously_referenced_set fuel _ state'
          (Imported.foldl_visit previously_referenced_set _ { state with stack }
            (hinv.with_stack stack) (List.pairwise_reverse.mpr hpairwise) fun block hblock => ?_)
          hloop
        obtain ⟨hpast, b, hread⟩ := htrail block (List.mem_reverse.mp hblock)
        exact ⟨hpast, hid b block hread ▸ hread⟩

include hid hparent in
/-- `can_reference` reports each block once, and only blocks past the tails of the state it
    queries. -/
theorem can_reference_spec {self : ThreadReferencesState B T} {refs : List B} {fuel : Nat}
    {implicit explicit : List B}
    (hquery : self.can_reference refs read fuel = .ok (.Yes ⟨implicit, explicit⟩)) :
    (explicit ++ implicit).Nodup ∧ ∀ b ∈ explicit ++ implicit,
      ∃ block, read b = .ok block ∧
        PastTail self.all_thread_refs block.block_thread_identifier block.block_seq_no := by
  unfold ThreadReferencesState.can_reference at hquery
  dsimp only at hquery
  split_ifs at hquery
  · cases hquery
    simp
  · split at hquery
    · cases hquery
    · next state hloop =>
      cases hquery
      exact (can_reference_loop_imported hid hparent _ fuel _ state
        (imported_start self.all_thread_refs refs) hloop).reported

include hid hparent in
/-- One call of `move_refs` returns no block twice, only blocks past the tail their thread had
    before the call, and leaves the tail of each returned block's thread at least as new. -/
theorem move_refs_spec {self : ThreadReferencesState B T} {refs : List B} {fuel : Nat}
    {referenced : List (CrossThreadRefData B T)} {after : ThreadReferencesState B T}
    (hmove : self.move_refs refs read fuel = .ok (referenced, after)) :
    (referenced.map (·.block_identifier)).Nodup ∧ ∀ block ∈ referenced,
      read block.block_identifier = .ok block ∧
      PastTail self.all_thread_refs block.block_thread_identifier block.block_seq_no ∧
      TailReaches after.all_thread_refs block.block_thread_identifier block.block_seq_no := by
  obtain ⟨implicit, explicit, phantoms, hquery, -, hdata, hafter⟩ := move_refs_eq_ok hmove
  obtain ⟨hnodup, hreported⟩ := can_reference_spec hid hparent hquery
  obtain ⟨hids, hread⟩ := Iterate.mapM_except_map_eq hid hdata
  refine ⟨hids ▸ hnodup, fun block hblock => ⟨hread block hblock, ?_, ?_⟩⟩
  · obtain ⟨reported, hreported_read, hpast⟩ :=
      hreported block.block_identifier (hids ▸ List.mem_map_of_mem hblock)
    rw [hread block hblock, Except.ok.injEq] at hreported_read
    exact hreported_read ▸ hpast
  · rw [hafter]
    exact tailReaches_foldl_insert_keep_tails _ phantoms (List.mem_map_of_mem hblock)

end Graph

end ackinacki.multithreading.cross_thread_messaging
