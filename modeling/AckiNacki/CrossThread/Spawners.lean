import AckiNacki.CrossThread.MoveRefs
import AckiNacki.Lib.Run

namespace ackinacki.multithreading.cross_thread_messaging

variable {B T : Type} [DecidableEq B] [DecidableEq T]

/-- The tails know the spawning ancestors of the threads they hold: for every thread with a tail,
    each block that spawns it is reached by the tail of that block's own thread. The states the
    node builds are of this kind: `postprocess` makes every block the tail of its own thread, and
    the first block of a spawned thread starts from the state of the block that spawned it. -/
def KnowsSpawners (read : B → Except String (CrossThreadRefData B T))
    (tails : AList (fun _ : T => ReferencedBlock B T)) : Prop :=
  ∀ b spawner thread, read b = .ok spawner → thread ∈ spawner.spawned_threads →
    (tails.lookup thread).isSome →
      TailReaches tails spawner.block_thread_identifier spawner.block_seq_no

/-- A trail of the walk back from `cursor`, newest first: the parent of each block comes next,
    and the walk stops at a block that the tail of its thread reaches. -/
inductive WalkedFrom (read : B → Except String (CrossThreadRefData B T))
    (cutoff : AList (fun _ : T => ReferencedBlock B T)) :
    CrossThreadRefData B T → List (CrossThreadRefData B T) → Prop
  | cut {cursor : CrossThreadRefData B T} :
    TailReaches cutoff cursor.block_thread_identifier cursor.block_seq_no →
      WalkedFrom read cutoff cursor []
  | step {cursor parent : CrossThreadRefData B T} {trail : List (CrossThreadRefData B T)} :
    read cursor.parent_block_identifier = .ok parent → WalkedFrom read cutoff parent trail →
      WalkedFrom read cutoff cursor (cursor :: trail)

/-- What the work list of `can_reference` keeps beside `Imported`, against the tails `before` the
    query: its tails know their spawners, and each is a tail from before or a block it passed,
    stored under that block's thread. -/
structure Tracked (read : B → Except String (CrossThreadRefData B T))
    (before : AList (fun _ : T => ReferencedBlock B T)) (state : CanReferenceState B T) :
    Prop where
  knows : KnowsSpawners read state.tails
  moved : ∀ thread tail, state.tails.lookup thread = some tail →
    before.lookup thread = some tail ∨
      (tail ∈ state.all_referenced_blocks ∧ tail.block_thread_identifier = thread)

/-- One successful call of `move_refs` in a run of calls; a call that fails ends the run. -/
def move_refs_step (read : B → Except String (CrossThreadRefData B T)) (fuel : Nat)
    (state : ThreadReferencesState B T) (refs : List B) :
    Option (List (CrossThreadRefData B T) × ThreadReferencesState B T) :=
  match state.move_refs refs read fuel with
  | .ok result => some result
  | .error _ => none

section Tails

variable {tails before : AList (fun _ : T => ReferencedBlock B T)}

omit [DecidableEq B] in
/-- A tail reaches what an older tail of the same thread reaches. -/
theorem TailReaches.of_dominates (hdominates : Dominates tails before) {thread : T} {seq_no : Nat}
    (hreaches : TailReaches before thread seq_no) : TailReaches tails thread seq_no := by
  obtain ⟨tail, hlookup, hle⟩ := hreaches
  obtain ⟨tail', hlookup', hle'⟩ := hdominates thread tail hlookup
  exact ⟨tail', hlookup', hle.trans hle'⟩

omit [DecidableEq B] in
theorem Dominates.trans {middle : AList (fun _ : T => ReferencedBlock B T)}
    (hlast : Dominates tails middle) (hfirst : Dominates middle before) : Dominates tails before :=
  fun thread tail hlookup => (hfirst thread tail hlookup).of_dominates hlast

omit [DecidableEq B] in
theorem TailReaches.isSome {thread : T} {seq_no : Nat} (hreaches : TailReaches tails thread seq_no) :
    (tails.lookup thread).isSome := by
  obtain ⟨tail, hlookup, -⟩ := hreaches
  rw [hlookup]
  rfl

omit [DecidableEq B] in
theorem tailReaches_insert_data (tails : AList (fun _ : T => ReferencedBlock B T))
    (block : CrossThreadRefData B T) :
    TailReaches (tails.insert block.block_thread_identifier block.as_reference_state_data)
      block.block_thread_identifier block.block_seq_no :=
  ⟨block.as_reference_state_data, AList.lookup_insert _, le_rfl⟩

omit [DecidableEq B] in
/-- Every tail `keep_tails` keeps is one of the blocks it is given. -/
theorem mem_of_mem_keep_tails {blocks : List (ReferencedBlock B T)} {tail : ReferencedBlock B T}
    (htail : tail ∈ keep_tails blocks) : tail ∈ blocks := by
  rw [keep_tails_eq] at htail
  obtain ⟨entry, hentry, rfl⟩ := List.mem_map.mp htail
  have hkept : ∀ thread tail, (blocks.foldl keep_tail ∅).lookup thread = some tail →
      tail ∈ blocks := Iterate.foldl_invariant
    (fun tails : AList (fun _ : T => ReferencedBlock B T) =>
      ∀ thread tail, tails.lookup thread = some tail → tail ∈ blocks)
    (fun block hblock tails hkept => by
      rcases keep_tail_cases tails block with ⟨hturn, -⟩ | ⟨hturn, -⟩
      · rw [hturn]
        intro thread tail hlookup
        rcases Iterate.lookup_insert_eq_some.mp hlookup with ⟨-, rfl⟩ | ⟨-, hlookup⟩
        · exact hblock
        · exact hkept thread tail hlookup
      · rw [hturn]
        exact hkept)
    (fun _ _ h => by simp at h)
  exact hkept entry.1 entry.2 (AList.mem_lookup_iff.mpr hentry)

end Tails

variable {read : B → Except String (CrossThreadRefData B T)}
  (hid : ∀ b block, read b = .ok block → block.block_identifier = b)
  (hparent : ∀ b block parent, read b = .ok block →
    read block.parent_block_identifier = .ok parent → parent.block_seq_no < block.block_seq_no)
  (hthread : ∀ b block parent, read b = .ok block →
    read block.parent_block_identifier = .ok parent →
      parent.block_thread_identifier = block.block_thread_identifier ∨
        block.block_thread_identifier ∈ parent.spawned_threads)
  (hspawner : ∀ b b' spawner spawner' thread, read b = .ok spawner → read b' = .ok spawner' →
    thread ∈ spawner.spawned_threads → thread ∈ spawner'.spawned_threads → b = b')

section Visit

variable {tails : AList (fun _ : T => ReferencedBlock B T)}

omit [DecidableEq B] in
include hthread hspawner in
/-- Moving the tail of a block's thread to it keeps the spawners known, when the tails reach its
    parent: the first tail of a spawned thread is a block whose parent is the spawner. -/
theorem KnowsSpawners.insert (hknows : KnowsSpawners read tails) {block parent : CrossThreadRefData B T}
    (hblock : read block.block_identifier = .ok block)
    (hread_parent : read block.parent_block_identifier = .ok parent)
    (hpast : PastTail tails block.block_thread_identifier block.block_seq_no)
    (hparent_reached : TailReaches tails parent.block_thread_identifier parent.block_seq_no) :
    KnowsSpawners read (tails.insert block.block_thread_identifier block.as_reference_state_data) := by
  intro b spawner thread hspawner_read hspawned hsome
  have hreaches : TailReaches tails spawner.block_thread_identifier spawner.block_seq_no := by
    by_cases hsame_thread : thread = block.block_thread_identifier
    · subst hsame_thread
      by_cases hhad : (tails.lookup block.block_thread_identifier).isSome
      · exact hknows b spawner _ hspawner_read hspawned hhad
      rcases hthread _ block parent hblock hread_parent with hsame | hspawns
      · exact absurd (hsame ▸ hparent_reached.isSome) hhad
      · have hb : block.parent_block_identifier = b :=
          hspawner _ _ parent spawner _ hread_parent hspawner_read hspawns hspawned
        rw [hb, hspawner_read, Except.ok.injEq] at hread_parent
        exact hread_parent ▸ hparent_reached
    · have hsome' : (tails.lookup thread).isSome := by
        rwa [AList.lookup_insert_ne hsame_thread] at hsome
      exact hknows b spawner thread hspawner_read hspawned hsome'
  have hpast_block : PastTail tails block.as_reference_state_data.block_thread_identifier
      block.as_reference_state_data.block_seq_no := hpast
  exact hreaches.insert hpast_block

omit [DecidableEq B] in
theorem Tracked.with_stack {before : AList (fun _ : T => ReferencedBlock B T)}
    {state : CanReferenceState B T} (hinv : Tracked read before state) (stack : List B) :
    Tracked read before { state with stack } :=
  ⟨hinv.knows, hinv.moved⟩

include hthread hspawner in
/-- Step lemma: passing a stored block past its tail, whose parent the tails reach, keeps the
    invariant. -/
theorem Tracked.visit {before : AList (fun _ : T => ReferencedBlock B T)}
    {state : CanReferenceState B T} (hinv : Tracked read before state)
    (previously_referenced_set : List B) {block parent : CrossThreadRefData B T}
    (hblock : read block.block_identifier = .ok block)
    (hread_parent : read block.parent_block_identifier = .ok parent)
    (hpast : PastTail state.tails block.block_thread_identifier block.block_seq_no)
    (hparent_reached :
      TailReaches state.tails parent.block_thread_identifier parent.block_seq_no) :
    Tracked read before (visit_block previously_referenced_set state block) := by
  rw [visit_block_of_pastTail hpast]
  refine ⟨hinv.knows.insert hthread hspawner hblock hread_parent hpast hparent_reached, ?_⟩
  intro thread tail hlookup
  rcases Iterate.lookup_insert_eq_some.mp hlookup with ⟨rfl, rfl⟩ | ⟨-, hlookup⟩
  · exact Or.inr ⟨List.mem_append_right _ List.mem_cons_self, rfl⟩
  · rcases hinv.moved thread tail hlookup with hbefore | ⟨hpassed, hthread_eq⟩
    · exact Or.inl hbefore
    · exact Or.inr ⟨List.mem_append_left _ hpassed, hthread_eq⟩

end Visit

section Walk

/-- The walk back yields a trail walked from its cursor. -/
theorem walk_back_loop_walked {cutoff : AList (fun _ : T => ReferencedBlock B T)} :
    ∀ fuel (cursor : CrossThreadRefData B T) trail out,
      walk_back_loop read cutoff fuel cursor trail = .ok out →
        ∃ added, out = trail ++ added ∧ WalkedFrom read cutoff cursor added
  | 0, _, _, _, hwalk => by simp [walk_back_loop] at hwalk
  | fuel + 1, cursor, trail, out, hwalk => by
    unfold walk_back_loop at hwalk
    dsimp only at hwalk
    split_ifs at hwalk with hcut
    · have hreached : TailReaches cutoff cursor.block_thread_identifier cursor.block_seq_no := by
        cases hlookup : cutoff.lookup cursor.block_thread_identifier with
        | none => simp [hlookup] at hcut
        | some tail =>
          simp only [hlookup, decide_eq_true_eq] at hcut
          exact ⟨tail, hlookup, hcut⟩
      refine ⟨[], ?_, WalkedFrom.cut hreached⟩
      split at hwalk
      · split_ifs at hwalk
        cases hwalk
        simp
      · cases hwalk
        simp
    · split at hwalk
      · cases hwalk
      · next parent hread =>
        obtain ⟨added, rfl, hwalked⟩ := walk_back_loop_walked fuel parent _ out hwalk
        exact ⟨cursor :: added, by simp, WalkedFrom.step hread hwalked⟩

theorem walk_back_into_history_walked {cutoff : AList (fun _ : T => ReferencedBlock B T)}
    {fuel : Nat} {cursor : B} {trail : List (CrossThreadRefData B T)}
    (hwalk : walk_back_into_history read cutoff fuel cursor = .ok trail) :
    ∃ block, WalkedFrom read cutoff block trail := by
  unfold walk_back_into_history at hwalk
  split at hwalk
  · cases hwalk
  · next block _ =>
    obtain ⟨added, rfl, hwalked⟩ := walk_back_loop_walked fuel block [] trail hwalk
    exact ⟨block, by simpa using hwalked⟩

end Walk

section Loop

variable {before : AList (fun _ : T => ReferencedBlock B T)} (previously_referenced_set : List B)

include hthread hspawner in
/-- Visiting a walked trail oldest first keeps the invariant and leaves tails that reach its
    cursor, each a tail from the start or a block of the trail. -/
theorem Tracked.foldl_visit_walked {cutoff : AList (fun _ : T => ReferencedBlock B T)}
    {cursor : CrossThreadRefData B T} {added : List (CrossThreadRefData B T)}
    (hwalked : WalkedFrom read cutoff cursor added) :
    ∀ (state : CanReferenceState B T), state.tails = cutoff → Tracked read before state →
      added.Pairwise (fun newer older => older.block_seq_no < newer.block_seq_no) →
      (∀ block ∈ added, PastTail cutoff block.block_thread_identifier block.block_seq_no ∧
        read block.block_identifier = .ok block) →
      Tracked read before (added.reverse.foldl (visit_block previously_referenced_set) state) ∧
        TailReaches (added.reverse.foldl (visit_block previously_referenced_set) state).tails
          cursor.block_thread_identifier cursor.block_seq_no ∧
        ∀ thread tail,
          (added.reverse.foldl (visit_block previously_referenced_set) state).tails.lookup thread =
              some tail →
            cutoff.lookup thread = some tail ∨
              tail ∈ added.map CrossThreadRefData.as_reference_state_data := by
  induction hwalked with
  | cut hcut =>
    intro state htails hinv _ _
    subst htails
    exact ⟨hinv, hcut, fun _ _ hlookup => Or.inl hlookup⟩
  | @step cursor parent trail hread_parent _ ih =>
    intro state htails hinv hpairwise hadded
    obtain ⟨hnewer, hpairwise⟩ := List.pairwise_cons.mp hpairwise
    obtain ⟨hinv', hparent_reached, hprovenance⟩ := ih state htails hinv hpairwise
      fun block hblock => hadded block (List.mem_cons_of_mem _ hblock)
    obtain ⟨hpast_cutoff, hread⟩ := hadded cursor List.mem_cons_self
    have hpast : PastTail (trail.reverse.foldl (visit_block previously_referenced_set) state).tails
        cursor.block_thread_identifier cursor.block_seq_no := by
      intro tail hlookup
      rcases hprovenance _ tail hlookup with hcutoff | hvisited
      · exact hpast_cutoff tail hcutoff
      · obtain ⟨older, holder, rfl⟩ := List.mem_map.mp hvisited
        exact hnewer older holder
    rw [List.reverse_cons, List.foldl_append, List.foldl_cons, List.foldl_nil,
      visit_block_of_pastTail hpast]
    refine ⟨?_, tailReaches_insert_data _ cursor, ?_⟩
    · have hvisit := hinv'.visit hthread hspawner previously_referenced_set hread hread_parent
        hpast hparent_reached
      rwa [visit_block_of_pastTail hpast] at hvisit
    · intro thread tail hlookup
      rcases Iterate.lookup_insert_eq_some.mp hlookup with ⟨-, rfl⟩ | ⟨-, hlookup⟩
      · exact Or.inr (List.mem_map_of_mem List.mem_cons_self)
      · rcases hprovenance thread tail hlookup with hcutoff | hvisited
        · exact Or.inl hcutoff
        · exact Or.inr (List.mem_cons_of_mem _ hvisited)

include hid hparent hthread hspawner in
/-- Run lemma of the work list: every query of the work list keeps the invariant. -/
theorem can_reference_loop_tracked :
    ∀ fuel (state state' : CanReferenceState B T), Tracked read before state →
      can_reference_loop read previously_referenced_set fuel state = .ok state' →
      Tracked read before state'
  | 0, _, _, _, hloop => by simp [can_reference_loop] at hloop
  | fuel + 1, state, state', hinv, hloop => by
    unfold can_reference_loop at hloop
    split at hloop
    · cases hloop
      exact hinv
    · next cursor stack _ =>
      split at hloop
      · cases hloop
      · next trail hwalk =>
        obtain ⟨hpairwise, htrail⟩ := walk_back_into_history_trail hparent hwalk
        obtain ⟨block, hwalked⟩ := walk_back_into_history_walked hwalk
        have hvisited := Tracked.foldl_visit_walked hthread hspawner previously_referenced_set
          hwalked { state with stack } rfl (hinv.with_stack stack) hpairwise fun block hblock => by
            obtain ⟨hpast, b, hread⟩ := htrail block hblock
            exact ⟨hpast, hid b block hread ▸ hread⟩
        exact can_reference_loop_tracked fuel _ state' hvisited.1 hloop

end Loop

section Query

/-- Every block the work list passed is reported, explicit or implicit. -/
theorem mem_reported_of_passed {state : CanReferenceState B T} {passed : ReferencedBlock B T}
    (hpassed : passed ∈ state.all_referenced_blocks) :
    passed.block_identifier ∈ state.explicitly_referenced_set ++
      (state.all_referenced_blocks.filter fun e =>
        e.block_identifier ∉ state.explicitly_referenced_set).map fun e => e.block_identifier := by
  by_cases hexplicit : passed.block_identifier ∈ state.explicitly_referenced_set
  · exact List.mem_append_left _ hexplicit
  · refine List.mem_append_right _ (List.mem_map_of_mem ?_)
    exact List.mem_filter.mpr ⟨hpassed, by simpa using hexplicit⟩

/-- Every block reported was passed by the work list. -/
theorem passed_of_mem_reported {state : CanReferenceState B T} {b : B}
    (hexplicit_passed : ∀ b ∈ state.explicitly_referenced_set,
      ∃ block ∈ state.all_referenced_blocks, block.block_identifier = b)
    (hb : b ∈ state.explicitly_referenced_set ++
      (state.all_referenced_blocks.filter fun e =>
        e.block_identifier ∉ state.explicitly_referenced_set).map fun e => e.block_identifier) :
    ∃ passed ∈ state.all_referenced_blocks, passed.block_identifier = b := by
  rcases List.mem_append.mp hb with hb | hb
  · exact hexplicit_passed b hb
  · obtain ⟨passed, hpassed, rfl⟩ := List.mem_map.mp hb
    exact ⟨passed, List.mem_of_mem_filter hpassed, rfl⟩

include hid hparent hthread hspawner in
/-- The spawner of the thread of a block a query reports is reached by the tail its thread had
    before the query, or by a reported block of that thread. -/
theorem can_reference_spawners {self : ThreadReferencesState B T} {refs : List B} {fuel : Nat}
    {implicit explicit : List B} (hknows : KnowsSpawners read self.all_thread_refs)
    (hquery : self.can_reference refs read fuel = .ok (.Yes ⟨implicit, explicit⟩)) :
    ∀ b ∈ explicit ++ implicit, ∀ block, read b = .ok block →
      ∀ b' spawner, read b' = .ok spawner → block.block_thread_identifier ∈ spawner.spawned_threads →
        TailReaches self.all_thread_refs spawner.block_thread_identifier spawner.block_seq_no ∨
          ∃ b'' ∈ explicit ++ implicit, ∃ reported, read b'' = .ok reported ∧
            reported.block_thread_identifier = spawner.block_thread_identifier ∧
            spawner.block_seq_no ≤ reported.block_seq_no := by
  unfold ThreadReferencesState.can_reference at hquery
  dsimp only at hquery
  split_ifs at hquery
  · cases hquery
    simp
  split at hquery
  · cases hquery
  next state hloop =>
  cases hquery
  have himported := can_reference_loop_imported hid hparent _ fuel _ state
    (imported_start self.all_thread_refs refs) hloop
  have htracked := can_reference_loop_tracked hid hparent hthread hspawner _ fuel _ state
    ⟨hknows, fun _ _ hlookup => Or.inl hlookup⟩ hloop
  intro b hb block hblock b' spawner hspawner_read hspawned
  obtain ⟨passed, hpassed, rfl⟩ := passed_of_mem_reported himported.explicit_passed hb
  obtain ⟨data, hdata, hpassed_data⟩ := himported.stored passed hpassed
  rw [hdata, Except.ok.injEq] at hblock
  subst hblock hpassed_data
  have hsome := (himported.reached _ hpassed).isSome
  obtain ⟨tail, hlookup, hle⟩ := htracked.knows b' spawner _ hspawner_read hspawned hsome
  rcases htracked.moved _ tail hlookup with hbefore | ⟨htail_passed, htail_thread⟩
  · exact Or.inl ⟨tail, hbefore, hle⟩
  · obtain ⟨tail_data, htail_data, rfl⟩ := himported.stored tail htail_passed
    exact Or.inr ⟨_, mem_reported_of_passed htail_passed, tail_data, htail_data, htail_thread, hle⟩

omit [DecidableEq B] in
/-- The phantoms of a query from tails that know their spawners fill only threads without a
    tail: each thread keeps its tail, or gets as its tail a reported block that spawns it. -/
theorem add_phantoms_spec {before : AList (fun _ : T => ReferencedBlock B T)}
    (hknows : KnowsSpawners read before) {all_refs : List B}
    (hreported : ∀ b ∈ all_refs, ∃ block, read b = .ok block ∧
      PastTail before block.block_thread_identifier block.block_seq_no)
    {phantoms : AList (fun _ : T => ReferencedBlock B T)}
    (h : ThreadReferencesState.add_phantoms read before all_refs = .ok phantoms) :
    (∀ thread, (before.lookup thread).isSome → phantoms.lookup thread = before.lookup thread) ∧
      ∀ thread tail, phantoms.lookup thread = some tail → before.lookup thread = some tail ∨
        ∃ b ∈ all_refs, ∃ spawner, read b = .ok spawner ∧ thread ∈ spawner.spawned_threads ∧
          tail = spawner.as_reference_state_data := by
  let Phantoms (tails : AList (fun _ : T => ReferencedBlock B T)) : Prop :=
    (∀ thread, (before.lookup thread).isSome → tails.lookup thread = before.lookup thread) ∧
      ∀ thread tail, tails.lookup thread = some tail → before.lookup thread = some tail ∨
        ∃ b ∈ all_refs, ∃ spawner, read b = .ok spawner ∧ thread ∈ spawner.spawned_threads ∧
          tail = spawner.as_reference_state_data
  refine Iterate.foldlM_except_invariant Phantoms (fun b hb tails tails' hstep hphantoms => ?_) h
    ⟨fun _ _ => rfl, fun _ _ hlookup => Or.inl hlookup⟩
  split at hstep
  · cases hstep
  next spawner hspawner_read =>
  cases hstep
  obtain ⟨block, hblock, hpast⟩ := hreported b hb
  rw [hblock, Except.ok.injEq] at hspawner_read
  subst hspawner_read
  refine Iterate.foldl_invariant Phantoms (fun thread hthread_spawned tails hphantoms => ?_) hphantoms
  have hnone : ¬(before.lookup thread).isSome := fun hsome =>
    hpast.not_tailReaches (hknows b block thread hblock hthread_spawned hsome)
  refine ⟨fun thread' hsome => ?_, fun thread' tail hlookup => ?_⟩
  · have hne : thread' ≠ thread := fun heq => hnone (heq ▸ hsome)
    rw [AList.lookup_insert_ne hne]
    exact hphantoms.1 thread' hsome
  · rcases Iterate.lookup_insert_eq_some.mp hlookup with ⟨rfl, rfl⟩ | ⟨-, hlookup⟩
    · exact Or.inr ⟨b, hb, block, hblock, hthread_spawned, rfl⟩
    · exact hphantoms.2 thread' tail hlookup

end Query

section Calls

include hid hparent hthread hspawner in
/-- A call of `move_refs` from tails that know their spawners moves no tail back, and leaves
    tails that know their spawners. -/
theorem move_refs_dominates {self : ThreadReferencesState B T} {refs : List B} {fuel : Nat}
    {referenced : List (CrossThreadRefData B T)} {after : ThreadReferencesState B T}
    (hknows : KnowsSpawners read self.all_thread_refs)
    (hmove : self.move_refs refs read fuel = .ok (referenced, after)) :
    Dominates after.all_thread_refs self.all_thread_refs ∧
      KnowsSpawners read after.all_thread_refs := by
  obtain ⟨implicit, explicit, phantoms, hquery, hphantoms, hdata, hafter⟩ := move_refs_eq_ok hmove
  obtain ⟨-, hreported⟩ := can_reference_spec hid hparent hquery
  obtain ⟨hids, -⟩ := Iterate.mapM_except_map_eq hid hdata
  obtain ⟨-, hblocks⟩ := move_refs_spec hid hparent hmove
  obtain ⟨hkept, hphantom⟩ := add_phantoms_spec hknows hreported hphantoms
  have hlookup_after : ∀ thread tail, after.all_thread_refs.lookup thread = some tail →
      (tail ∈ referenced.map CrossThreadRefData.as_reference_state_data ∧
        tail.block_thread_identifier = thread) ∨ phantoms.lookup thread = some tail := by
    intro thread tail hlookup
    rw [hafter] at hlookup
    rcases Iterate.lookup_foldl_insert_key_eq_some _ hlookup with ⟨hmem, hkey⟩ | hphantom_lookup
    · exact Or.inl ⟨mem_of_mem_keep_tails hmem, hkey⟩
    · exact Or.inr hphantom_lookup
  have hreturned : ∀ b ∈ explicit ++ implicit, ∀ block, read b = .ok block → block ∈ referenced := by
    intro b hb block hblock
    obtain ⟨returned, hreturned, rfl⟩ := List.mem_map.mp (hids ▸ hb)
    rw [(hblocks returned hreturned).1, Except.ok.injEq] at hblock
    exact hblock ▸ hreturned
  have hdominates : Dominates after.all_thread_refs self.all_thread_refs := by
    intro thread tail hbefore
    have hphantom_lookup : phantoms.lookup thread = some tail :=
      (hkept thread (by rw [hbefore]; rfl)).trans hbefore
    have hsome : (after.all_thread_refs.lookup thread).isSome := by
      rw [hafter]
      exact Iterate.isSome_lookup_foldl_insert _ _ (by rw [hphantom_lookup]; rfl)
    obtain ⟨tail', hlookup⟩ := Option.isSome_iff_exists.mp hsome
    rcases hlookup_after thread tail' hlookup with ⟨hmem, hkey⟩ | hphantom_lookup'
    · obtain ⟨block, hblock, rfl⟩ := List.mem_map.mp hmem
      have hthread_eq : block.block_thread_identifier = thread := hkey
      have hpast := (hblocks block hblock).2.1
      rw [hthread_eq] at hpast
      exact ⟨_, hlookup, (hpast tail hbefore).le⟩
    · rw [hphantom_lookup, Option.some.injEq] at hphantom_lookup'
      exact ⟨tail', hlookup, hphantom_lookup' ▸ le_rfl⟩
  refine ⟨hdominates, fun b spawner thread hspawner_read hspawned hsome => ?_⟩
  by_cases hhad : (self.all_thread_refs.lookup thread).isSome
  · exact (hknows b spawner thread hspawner_read hspawned hhad).of_dominates hdominates
  obtain ⟨tail, hlookup⟩ := Option.isSome_iff_exists.mp hsome
  rcases hlookup_after thread tail hlookup with ⟨hmem, hkey⟩ | hphantom_lookup
  · obtain ⟨block, hblock, rfl⟩ := List.mem_map.mp hmem
    have hthread_eq : block.block_thread_identifier = thread := hkey
    have hmem_reported : block.block_identifier ∈ explicit ++ implicit :=
      hids ▸ List.mem_map_of_mem hblock
    rcases can_reference_spawners hid hparent hthread hspawner hknows hquery _ hmem_reported block
        (hblocks block hblock).1 b spawner hspawner_read (hthread_eq ▸ hspawned) with
      hbefore | ⟨b'', hb'', reported, hreported_read, hreported_thread, hle⟩
    · exact hbefore.of_dominates hdominates
    · obtain ⟨tail', hlookup', hle'⟩ := (hblocks reported
        (hreturned b'' hb'' reported hreported_read)).2.2
      exact ⟨tail', hreported_thread ▸ hlookup', hle.trans hle'⟩
  · rcases hphantom thread tail hphantom_lookup with hbefore | ⟨b', hb', spawner', hspawner'_read,
        hspawned', rfl⟩
    · exact absurd (by rw [hbefore]; rfl) hhad
    · have hsame : b' = b := hspawner _ _ _ _ _ hspawner'_read hspawner_read hspawned' hspawned
      subst hsame
      rw [hspawner_read, Except.ok.injEq] at hspawner'_read
      subst hspawner'_read
      exact (hblocks spawner (hreturned b' hb' spawner hspawner_read)).2.2

theorem move_refs_step_eq_some {fuel : Nat} {state : ThreadReferencesState B T} {refs : List B}
    {result : List (CrossThreadRefData B T) × ThreadReferencesState B T} :
    move_refs_step read fuel state refs = some result ↔ state.move_refs refs read fuel = .ok result := by
  unfold move_refs_step
  split <;> simp_all

include hid hparent hthread hspawner in
/-- Run lemma: over calls from tails that know their spawners, no block is returned twice, and
    every returned block is past the tail its thread had before the run and reached by the tail
    after it. -/
theorem move_refs_run_spec {fuel : Nat} :
    ∀ {calls : List (List B)} {self : ThreadReferencesState B T}
      {trace : List (List B × List (CrossThreadRefData B T))} {after : ThreadReferencesState B T},
      KnowsSpawners read self.all_thread_refs →
      Run.run (move_refs_step read fuel) self calls = some (trace, after) →
      ((trace.map fun call => call.2.map (·.block_identifier)).flatten).Nodup ∧
        (∀ call ∈ trace, ∀ block ∈ call.2, read block.block_identifier = .ok block ∧
          PastTail self.all_thread_refs block.block_thread_identifier block.block_seq_no ∧
          TailReaches after.all_thread_refs block.block_thread_identifier block.block_seq_no) ∧
        Dominates after.all_thread_refs self.all_thread_refs ∧
        KnowsSpawners read after.all_thread_refs
  | [], self, _, _, hknows, hrun => by
    obtain ⟨rfl, rfl⟩ := Run.run_nil.mp hrun
    exact ⟨List.nodup_nil, by simp, Dominates.refl _, hknows⟩
  | refs :: calls, self, _, after, hknows, hrun => by
    obtain ⟨referenced, middle, rest, hstep, hrest, rfl⟩ := Run.run_cons.mp hrun
    have hmove := move_refs_step_eq_some.mp hstep
    obtain ⟨hnodup, hblocks⟩ := move_refs_spec hid hparent hmove
    obtain ⟨hdominates, hknows_middle⟩ :=
      move_refs_dominates hid hparent hthread hspawner hknows hmove
    obtain ⟨hnodup_rest, hrest_blocks, hdominates_rest, hknows_after⟩ :=
      move_refs_run_spec hknows_middle hrest
    refine ⟨?_, ?_, hdominates_rest.trans hdominates, hknows_after⟩
    · rw [List.map_cons, List.flatten_cons]
      refine List.nodup_append.mpr ⟨hnodup, hnodup_rest, ?_⟩
      intro x hx y hy hxy
      obtain ⟨block, hblock, rfl⟩ := List.mem_map.mp hx
      obtain ⟨ids, hids, hy⟩ := List.mem_flatten.mp hy
      obtain ⟨call, hcall, rfl⟩ := List.mem_map.mp hids
      obtain ⟨later, hlater, rfl⟩ := List.mem_map.mp hy
      obtain ⟨hlater_read, hlater_past, -⟩ := hrest_blocks call hcall later hlater
      rw [← hxy, (hblocks block hblock).1, Except.ok.injEq] at hlater_read
      subst hlater_read
      exact hlater_past.not_tailReaches (hblocks block hblock).2.2
    · intro call hcall block hblock
      rcases List.mem_cons.mp hcall with rfl | hcall
      · obtain ⟨hread, hpast, hreached⟩ := hblocks block hblock
        exact ⟨hread, hpast, hreached.of_dominates hdominates_rest⟩
      · obtain ⟨hread, hpast, hreached⟩ := hrest_blocks call hcall block hblock
        exact ⟨hread, hdominates.pastTail hpast, hreached⟩

include hid hparent hthread hspawner in
theorem move_refs_imports_each_block_once {self : ThreadReferencesState B T}
    (hknows : KnowsSpawners read self.all_thread_refs) (calls : List (List B)) {fuel : Nat}
    {trace : List (List B × List (CrossThreadRefData B T))} {after : ThreadReferencesState B T}
    (hrun : Run.run (move_refs_step read fuel) self calls = some (trace, after)) :
    (∀ (state : ThreadReferencesState B T) refs referenced state',
      KnowsSpawners read state.all_thread_refs →
      state.move_refs refs read fuel = .ok (referenced, state') →
        (referenced.map (·.block_identifier)).Nodup ∧
        (∀ block ∈ referenced,
          PastTail state.all_thread_refs block.block_thread_identifier block.block_seq_no ∧
          TailReaches state'.all_thread_refs block.block_thread_identifier block.block_seq_no) ∧
        KnowsSpawners read state'.all_thread_refs) ∧
    ((trace.map fun call => call.2.map (·.block_identifier)).flatten).Nodup ∧
    (∀ call ∈ trace, ∀ block ∈ call.2,
      PastTail self.all_thread_refs block.block_thread_identifier block.block_seq_no) ∧
    ∀ cutoff cursor block, read cursor = .ok block → block.block_seq_no < fuel →
      walk_back_into_history read cutoff fuel cursor ≠ .error .OutOfFuel := by
  obtain ⟨hnodup, hblocks, -, -⟩ := move_refs_run_spec hid hparent hthread hspawner hknows hrun
  refine ⟨fun state refs referenced state' hknows_state hmove => ?_, hnodup,
    fun call hcall block hblock => (hblocks call hcall block hblock).2.1,
    fun cutoff cursor block hcursor hfuel =>
      walk_back_into_history_ne_out_of_fuel hparent hcursor hfuel⟩
  obtain ⟨hnodup_call, hcall_blocks⟩ := move_refs_spec hid hparent hmove
  exact ⟨hnodup_call, fun block hblock => (hcall_blocks block hblock).2,
    (move_refs_dominates hid hparent hthread hspawner hknows_state hmove).2⟩

end Calls

/-- Four threads: thread `0` spawns thread `1` at block `11`; block `13` of thread `1` spawns
    thread `2`, and block `14` spawns thread `3`. Every block is its own identifier, and block
    `10` is the oldest block there is. -/
def spawn_graph : Nat → Except String (CrossThreadRefData Nat Nat)
  | 10 => .ok ⟨10, 0, 0, 99, [], []⟩
  | 11 => .ok ⟨11, 1, 0, 10, [], [1]⟩
  | 12 => .ok ⟨12, 2, 1, 11, [], []⟩
  | 13 => .ok ⟨13, 3, 1, 12, [], [2]⟩
  | 14 => .ok ⟨14, 4, 1, 13, [], [3]⟩
  | 15 => .ok ⟨15, 4, 2, 13, [], []⟩
  | 16 => .ok ⟨16, 5, 2, 15, [], []⟩
  | 17 => .ok ⟨17, 6, 2, 16, [], []⟩
  | 18 => .ok ⟨18, 5, 3, 14, [], []⟩
  | _ => .error "no such block"

/-- Sequence numbers decrease along every parent link of `spawn_graph`. -/
theorem spawn_graph_parent_seq_no_lt {b : Nat} {block parent : CrossThreadRefData Nat Nat}
    (hblock : spawn_graph b = .ok block)
    (hparent : spawn_graph block.parent_block_identifier = .ok parent) :
    parent.block_seq_no < block.block_seq_no := by
  unfold spawn_graph at hblock
  split at hblock <;> cases hblock <;> simp only [spawn_graph] at hparent <;> cases hparent <;>
    decide

/-- Every block of `spawn_graph` is read under its own identifier. -/
theorem spawn_graph_block_identifier {b : Nat} {block : CrossThreadRefData Nat Nat}
    (hblock : spawn_graph b = .ok block) : block.block_identifier = b := by
  unfold spawn_graph at hblock
  split at hblock <;> cases hblock <;> rfl

/-- The parent of every block of `spawn_graph` is in its thread or spawns it. -/
theorem spawn_graph_parent_thread {b : Nat} {block parent : CrossThreadRefData Nat Nat}
    (hblock : spawn_graph b = .ok block)
    (hparent : spawn_graph block.parent_block_identifier = .ok parent) :
    parent.block_thread_identifier = block.block_thread_identifier ∨
      block.block_thread_identifier ∈ parent.spawned_threads := by
  unfold spawn_graph at hblock
  split at hblock <;> cases hblock <;> simp only [spawn_graph] at hparent <;> cases hparent <;>
    decide

/-- Every thread of `spawn_graph` is spawned by one block at most. -/
theorem spawn_graph_spawner_unique {b b' : Nat} {spawner spawner' : CrossThreadRefData Nat Nat}
    {thread : Nat} (hspawner : spawn_graph b = .ok spawner)
    (hspawner' : spawn_graph b' = .ok spawner') (hspawned : thread ∈ spawner.spawned_threads)
    (hspawned' : thread ∈ spawner'.spawned_threads) : b = b' := by
  unfold spawn_graph at hspawner hspawner'
  split at hspawner <;> cases hspawner <;> split at hspawner' <;> cases hspawner' <;>
    simp_all

/-- The tails after block `13` of thread `1`: its own thread at `13`, and thread `0` at the
    block `11` that spawned thread `1`. -/
def tails_after_block_13 : ThreadReferencesState Nat Nat :=
  ⟨((∅ : AList (fun _ : Nat => ReferencedBlock Nat Nat)).insert 0 ⟨0, 11, 1⟩).insert 1 ⟨1, 13, 3⟩⟩

theorem tails_after_block_13_knows_spawners :
    KnowsSpawners spawn_graph tails_after_block_13.all_thread_refs := by
  intro b spawner thread hspawner hspawned hsome
  unfold spawn_graph at hspawner
  split at hspawner <;> cases hspawner <;>
    simp only [List.mem_cons, List.not_mem_nil, or_false] at hspawned
  · subst hspawned
    exact ⟨⟨0, 11, 1⟩, rfl, le_rfl⟩
  · subst hspawned
    exact absurd hsome (by decide)
  · subst hspawned
    exact absurd hsome (by decide)

/-- Four calls from the tails after block `13`: thread `2` up to `16`, the block `11` the tails
    already have, thread `3` with the block `14` that spawns it, and thread `2` once more. -/
theorem move_refs_imports_each_block_once_after_block_13 :
    (∀ (state : ThreadReferencesState Nat Nat) refs referenced state',
      KnowsSpawners spawn_graph state.all_thread_refs →
      state.move_refs refs spawn_graph 10 = .ok (referenced, state') →
        (referenced.map (·.block_identifier)).Nodup ∧
        (∀ block ∈ referenced,
          PastTail state.all_thread_refs block.block_thread_identifier block.block_seq_no ∧
          TailReaches state'.all_thread_refs block.block_thread_identifier block.block_seq_no) ∧
        KnowsSpawners spawn_graph state'.all_thread_refs) ∧
    ((([([16], [⟨15, 4, 2, 13, [], []⟩, ⟨16, 5, 2, 15, [], []⟩]), ([11], []),
        ([18], [⟨14, 4, 1, 13, [], [3]⟩, ⟨18, 5, 3, 14, [], []⟩]),
        ([17], [⟨17, 6, 2, 16, [], []⟩])] : List (List Nat × List (CrossThreadRefData Nat Nat))).map
          fun call => call.2.map (·.block_identifier)).flatten).Nodup ∧
    (∀ call ∈ ([([16], [⟨15, 4, 2, 13, [], []⟩, ⟨16, 5, 2, 15, [], []⟩]), ([11], []),
        ([18], [⟨14, 4, 1, 13, [], [3]⟩, ⟨18, 5, 3, 14, [], []⟩]),
        ([17], [⟨17, 6, 2, 16, [], []⟩])] : List (List Nat × List (CrossThreadRefData Nat Nat))),
      ∀ block ∈ call.2, PastTail tails_after_block_13.all_thread_refs block.block_thread_identifier
        block.block_seq_no) ∧
    ∀ cutoff cursor block, spawn_graph cursor = .ok block → block.block_seq_no < 10 →
      walk_back_into_history spawn_graph cutoff 10 cursor ≠ .error .OutOfFuel :=
  move_refs_imports_each_block_once (fun _ _ => spawn_graph_block_identifier)
    (fun _ _ _ => spawn_graph_parent_seq_no_lt) (fun _ _ _ => spawn_graph_parent_thread)
    (fun _ _ _ _ _ => spawn_graph_spawner_unique) tails_after_block_13_knows_spawners
    [[16], [11], [18], [17]] rfl

end ackinacki.multithreading.cross_thread_messaging
