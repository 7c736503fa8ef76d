import Mathlib.Data.List.Nodup
import AckiNacki.Finalization.TryFinalize
import AckiNacki.Lib.OrderedMap
import AckiNacki.Lib.Iterate

namespace ackinacki.node.unprocessed_blocks_collection

open ackinacki.node.block_state (AckiNackiBlockState)
open ackinacki.node.services.finalization (BlockIndex UnfinalizedBlocksSnapshot)

section Order

variable {B : Type} [LinearOrder B]

/-- `Ord for BlockIndex` is a strict total order. -/
instance : IsStrictTotalOrder (BlockIndex B) BlockIndex.lt where
  trichotomous a b hab hba := by
    obtain ⟨seq_no, identifier⟩ := a
    obtain ⟨seq_no', identifier'⟩ := b
    simp only [BlockIndex.lt, not_or, not_and, not_lt] at hab hba
    have hseq_no : seq_no = seq_no' := by omega
    subst hseq_no
    rw [le_antisymm (hba.2 rfl) (hab.2 rfl)]
  irrefl a h := by
    rcases h with h | ⟨-, h⟩
    · exact lt_irrefl _ h
    · exact lt_irrefl _ h
  trans a b c hab hbc := by
    unfold BlockIndex.lt at *
    rcases hab with hab | ⟨hab, hab'⟩ <;> rcases hbc with hbc | ⟨hbc, hbc'⟩
    · exact .inl (by omega)
    · exact .inl (by omega)
    · exact .inl (by omega)
    · exact .inr ⟨hab.trans hbc, hab'.trans hbc'⟩

end Order

variable {B V T : Type} [LinearOrder B]

/-- `UnfinalizedBlocksData`: the queue (`main_map.blocks`, a `BTreeMap`, as its entries in key
    order) with its two indexes, `identifier_to_seqno` and `main_map.block_id_set`, as functions.
    A block's state is not kept here: it lives in the block state repository, and the removals
    read it from there. -/
structure UnfinalizedBlocksData (B V : Type) [LinearOrder B] where
  blocks : List (BlockIndex B × V)
  sorted : OrderedMap.Sorted BlockIndex.lt blocks
  identifier_to_seqno : B → Option Nat
  block_id_set : B → Bool

instance : Inhabited (UnfinalizedBlocksData B V) :=
  ⟨⟨[], List.Pairwise.nil, fun _ => none, fun _ => false⟩⟩

namespace UnfinalizedBlocksData

/-- The queued indexes, in order. -/
def keys (self : UnfinalizedBlocksData B V) : List (BlockIndex B) := self.blocks.map Prod.fst

/-- `insert`: the identifier's sequence number, the block, and the identifier. -/
def insert (self : UnfinalizedBlocksData B V) (index : BlockIndex B) (value : V) :
    UnfinalizedBlocksData B V where
  identifier_to_seqno :=
    Function.update self.identifier_to_seqno index.block_identifier (some index.block_seq_no)
  blocks := OrderedMap.insert BlockIndex.lt index value self.blocks
  sorted := self.sorted.insert
  block_id_set := Function.update self.block_id_set index.block_identifier true

/-- One turn of the removal loop of `retain`: the index out of the map and both indexes. -/
def remove (self : UnfinalizedBlocksData B V) (index : BlockIndex B) :
    UnfinalizedBlocksData B V where
  identifier_to_seqno := Function.update self.identifier_to_seqno index.block_identifier none
  blocks := self.blocks.filter fun entry => entry.1 ≠ index
  sorted := self.sorted.filter _
  block_id_set := Function.update self.block_id_set index.block_identifier false

/-- `retain`: the indexes of the entries that fail `f` are collected first, then removed. -/
def retain (self : UnfinalizedBlocksData B V) (f : BlockIndex B → V → Bool) :
    UnfinalizedBlocksData B V :=
  let to_remove := (self.blocks.filter fun entry => !f entry.1 entry.2).map Prod.fst
  to_remove.foldl remove self

/-- `UnfinalizedCandidateBlockCollection::new`: the blocks inserted in turn. -/
def new (states : List (BlockIndex B × V)) : UnfinalizedBlocksData B V :=
  states.foldl (fun data entry => data.insert entry.1 entry.2) default

/-- `UnfinalizedCandidateBlockCollection::get_block_by_id`, through the index. -/
def get_block_by_id (self : UnfinalizedBlocksData B V) (identifier : B) : Option V :=
  (self.identifier_to_seqno identifier).bind fun seq_no =>
    self.blocks.lookup ⟨seq_no, identifier⟩

/-- `UnfinalizedCandidateBlockCollection::clone_queue`: the queued indexes, in order. -/
def clone_queue (self : UnfinalizedBlocksData B V) : UnfinalizedBlocksSnapshot B :=
  ⟨self.keys, self.sorted⟩

/-- `UnfinalizedCandidateBlockCollection::remove_finalized_and_invalidated_blocks`. -/
def remove_finalized_and_invalidated_blocks (self : UnfinalizedBlocksData B V)
    (states : B → AckiNackiBlockState B T) : UnfinalizedBlocksData B V :=
  self.retain fun index _ =>
    !(states index.block_identifier).is_finalized && !(states index.block_identifier).is_invalidated

/-- `UnfinalizedCandidateBlockCollection::remove_old_blocks`: a block whose sequence number is
    not known yet stays. -/
def remove_old_blocks (self : UnfinalizedBlocksData B V) (states : B → AckiNackiBlockState B T)
    (last_finalized_block_seq_no : Nat) : UnfinalizedBlocksData B V :=
  self.retain fun index _ =>
    ((states index.block_identifier).block_seq_no.map fun seq_no =>
      decide (seq_no > last_finalized_block_seq_no)).getD true

end UnfinalizedBlocksData

/-- What the block processor and finalization do to the queue. -/
inductive QueueEvent (B V T : Type) where
  | insert (index : BlockIndex B) (value : V)
  | remove_finalized_and_invalidated_blocks (states : B → AckiNackiBlockState B T)
  | remove_old_blocks (states : B → AckiNackiBlockState B T) (last_finalized_block_seq_no : Nat)

namespace QueueEvent

def apply (data : UnfinalizedBlocksData B V) : QueueEvent B V T → UnfinalizedBlocksData B V
  | insert index value => data.insert index value
  | remove_finalized_and_invalidated_blocks states =>
    data.remove_finalized_and_invalidated_blocks states
  | remove_old_blocks states last_finalized_block_seq_no =>
    data.remove_old_blocks states last_finalized_block_seq_no

/-- The index an event inserts, if it inserts one. -/
def inserted : QueueEvent B V T → Option (BlockIndex B)
  | insert index _ => some index
  | _ => none

end QueueEvent

namespace UnfinalizedBlocksData

/-- The two indexes agree with the queue: an identifier maps to a sequence number exactly when
    the queue holds that index, and is in the set exactly when the queue holds an index of it. -/
structure Indexed (data : UnfinalizedBlocksData B V) : Prop where
  seqno_iff : ∀ identifier seq_no,
    data.identifier_to_seqno identifier = some seq_no ↔ ⟨seq_no, identifier⟩ ∈ data.keys
  id_set_iff : ∀ identifier,
    data.block_id_set identifier = true ↔ ∃ seq_no, ⟨seq_no, identifier⟩ ∈ data.keys

theorem indexed_default : Indexed (default : UnfinalizedBlocksData B V) where
  seqno_iff _ _ := by simp [keys, default]
  id_set_iff _ := by simp [keys, default]

theorem mem_keys_insert {data : UnfinalizedBlocksData B V} {index k : BlockIndex B} {value : V} :
    k ∈ (data.insert index value).keys ↔ k = index ∨ k ∈ data.keys :=
  OrderedMap.mem_keys_insert

theorem mem_keys_remove {data : UnfinalizedBlocksData B V} {index k : BlockIndex B} :
    k ∈ (data.remove index).keys ↔ k ∈ data.keys ∧ k ≠ index := by
  simp only [keys, remove, List.mem_map, List.mem_filter, decide_eq_true_eq]
  constructor
  · rintro ⟨entry, ⟨hentry, hne⟩, rfl⟩
    exact ⟨⟨entry, hentry, rfl⟩, hne⟩
  · rintro ⟨⟨entry, hentry, rfl⟩, hne⟩
    exact ⟨entry, ⟨hentry, hne⟩, rfl⟩

/-- An identifier is queued with one sequence number at most. -/
theorem Indexed.seq_no_unique {data : UnfinalizedBlocksData B V} (h : data.Indexed)
    {identifier : B} {seq_no seq_no' : Nat} (hmem : ⟨seq_no, identifier⟩ ∈ data.keys)
    (hmem' : ⟨seq_no', identifier⟩ ∈ data.keys) : seq_no = seq_no' := by
  have hseq_no := (h.seqno_iff identifier seq_no).mpr hmem
  rw [(h.seqno_iff identifier seq_no').mpr hmem'] at hseq_no
  exact (Option.some.inj hseq_no).symm

/-- Inserting an index whose identifier is not queued with another sequence number keeps the
    indexes right. -/
theorem Indexed.insert {data : UnfinalizedBlocksData B V} (h : data.Indexed)
    {index : BlockIndex B} (hfresh : ∀ seq_no, ⟨seq_no, index.block_identifier⟩ ∈ data.keys →
      seq_no = index.block_seq_no) (value : V) : (data.insert index value).Indexed where
  seqno_iff identifier seq_no := by
    rw [mem_keys_insert]
    by_cases hidentifier : identifier = index.block_identifier
    · subst hidentifier
      simp only [UnfinalizedBlocksData.insert, Function.update_self, Option.some.injEq]
      constructor
      · rintro rfl
        exact .inl rfl
      · rintro (hindex | hmem)
        · rw [← hindex]
        · exact (hfresh seq_no hmem).symm
    · have hne : (⟨seq_no, identifier⟩ : BlockIndex B) ≠ index := fun hindex =>
        hidentifier (by rw [← hindex])
      simp only [UnfinalizedBlocksData.insert, Function.update_of_ne hidentifier, hne, false_or]
      exact h.seqno_iff identifier seq_no
  id_set_iff identifier := by
    simp only [mem_keys_insert]
    by_cases hidentifier : identifier = index.block_identifier
    · subst hidentifier
      simp only [UnfinalizedBlocksData.insert, Function.update_self, true_iff]
      exact ⟨index.block_seq_no, .inl rfl⟩
    · have hne : ∀ seq_no, (⟨seq_no, identifier⟩ : BlockIndex B) ≠ index := fun _ hindex =>
        hidentifier (by rw [← hindex])
      simp only [UnfinalizedBlocksData.insert, Function.update_of_ne hidentifier, hne, false_or]
      exact h.id_set_iff identifier

/-- Removing a queued index keeps the indexes right: its identifier had no other. -/
theorem Indexed.remove {data : UnfinalizedBlocksData B V} (h : data.Indexed)
    {index : BlockIndex B} (hmem : index ∈ data.keys) : (data.remove index).Indexed where
  seqno_iff identifier seq_no := by
    rw [mem_keys_remove]
    by_cases hidentifier : identifier = index.block_identifier
    · subst hidentifier
      simp only [UnfinalizedBlocksData.remove, Function.update_self, reduceCtorEq, false_iff,
        not_and, not_not]
      intro hmem'
      rw [h.seq_no_unique hmem' hmem]
    · have hne : (⟨seq_no, identifier⟩ : BlockIndex B) ≠ index := fun hindex =>
        hidentifier (by rw [← hindex])
      simp only [UnfinalizedBlocksData.remove, Function.update_of_ne hidentifier]
      rw [h.seqno_iff identifier seq_no]
      exact ⟨fun hmem' => ⟨hmem', hne⟩, And.left⟩
  id_set_iff identifier := by
    simp only [mem_keys_remove]
    by_cases hidentifier : identifier = index.block_identifier
    · subst hidentifier
      simp only [UnfinalizedBlocksData.remove, Function.update_self, Bool.false_eq_true,
        false_iff, not_exists, not_and, not_not]
      intro seq_no hmem'
      rw [h.seq_no_unique hmem' hmem]
    · have hne : ∀ seq_no, (⟨seq_no, identifier⟩ : BlockIndex B) ≠ index := fun _ hindex =>
        hidentifier (by rw [← hindex])
      simp only [UnfinalizedBlocksData.remove, Function.update_of_ne hidentifier]
      rw [h.id_set_iff identifier]
      exact ⟨fun ⟨seq_no, hmem'⟩ => ⟨seq_no, hmem', hne seq_no⟩,
        fun ⟨seq_no, hmem', _⟩ => ⟨seq_no, hmem'⟩⟩

/-- The removal loop of `retain`, over queued indexes each removed once, keeps the indexes
    right and leaves the entries whose index it does not remove. -/
theorem foldl_remove :
    ∀ {to_remove : List (BlockIndex B)} {data : UnfinalizedBlocksData B V},
      data.Indexed → (∀ index ∈ to_remove, index ∈ data.keys) → to_remove.Nodup →
      (to_remove.foldl remove data).Indexed ∧
        (to_remove.foldl remove data).blocks = data.blocks.filter fun entry => entry.1 ∉ to_remove
  | [], data, h, _, _ => ⟨h, by simp⟩
  | index :: to_remove, data, h, hmem, hnodup => by
    obtain ⟨hnot_mem, hnodup⟩ := List.nodup_cons.mp hnodup
    have hmem' : ∀ index' ∈ to_remove, index' ∈ (data.remove index).keys := fun index' hindex' =>
      mem_keys_remove.mpr ⟨hmem index' (List.mem_cons_of_mem _ hindex'),
        fun heq => hnot_mem (heq ▸ hindex')⟩
    obtain ⟨hindexed, hblocks⟩ :=
      foldl_remove (h.remove (hmem index List.mem_cons_self)) hmem' hnodup
    refine ⟨hindexed, ?_⟩
    rw [List.foldl_cons, hblocks, remove, List.filter_filter]
    congr 1
    funext entry
    by_cases hindex : entry.1 = index <;> by_cases hrest : entry.1 ∈ to_remove <;>
      simp [hindex, hrest]

theorem nodup_keys (data : UnfinalizedBlocksData B V) : data.keys.Nodup :=
  List.Pairwise.nodup data.sorted

/-- `retain` keeps exactly the entries that pass `f`, and the indexes right. -/
theorem Indexed.retain {data : UnfinalizedBlocksData B V} (h : data.Indexed)
    (f : BlockIndex B → V → Bool) :
    (data.retain f).Indexed ∧
      (data.retain f).blocks = data.blocks.filter fun entry => f entry.1 entry.2 := by
  have hsub : List.Sublist (data.blocks.filter fun entry => !f entry.1 entry.2) data.blocks :=
    List.filter_sublist
  have hnodup : ((data.blocks.filter fun entry => !f entry.1 entry.2).map Prod.fst).Nodup :=
    (hsub.map Prod.fst).nodup (nodup_keys data)
  obtain ⟨hindexed, hblocks⟩ := foldl_remove h
    (fun index hindex => (hsub.map Prod.fst).subset hindex) hnodup
  refine ⟨hindexed, hblocks.trans (List.filter_congr fun entry hentry => ?_)⟩
  have hinj := List.inj_on_of_nodup_map (nodup_keys data)
  have hkey : entry.1 ∈ (data.blocks.filter fun entry => !f entry.1 entry.2).map Prod.fst ↔
      f entry.1 entry.2 = false := by
    constructor
    · intro hmem
      obtain ⟨entry', hentry', hkey⟩ := List.mem_map.mp hmem
      rw [List.mem_filter] at hentry'
      rw [hinj hentry'.1 hentry hkey] at hentry'
      simpa using hentry'.2
    · intro hf
      exact List.mem_map.mpr ⟨entry, List.mem_filter.mpr ⟨hentry, by simp [hf]⟩, rfl⟩
  by_cases hf : f entry.1 entry.2 = true
  · have hnot := mt hkey.mp (by simp [hf])
    simp [hnot, hf]
  · have hin := hkey.mpr (by simpa using hf)
    simp only [hin, not_true_eq_false, decide_false]
    simpa using hf

/-- Through the index, or by scanning the snapshot, an identifier is found at the sequence number
    it is queued with. -/
theorem Indexed.clone_queue_get_block_by_id {data : UnfinalizedBlocksData B V} (h : data.Indexed)
    (identifier : B) :
    data.clone_queue.get_block_by_id identifier =
      (data.identifier_to_seqno identifier).map fun seq_no => ⟨seq_no, identifier⟩ := by
  simp only [clone_queue, UnfinalizedBlocksSnapshot.get_block_by_id]
  cases hseq_no : data.identifier_to_seqno identifier with
  | none =>
    rw [Option.map_none, List.find?_eq_none]
    intro index hindex hidentifier
    obtain ⟨seq_no, identifier'⟩ := index
    simp only [decide_eq_true_eq] at hidentifier
    subst hidentifier
    rw [(h.seqno_iff identifier' seq_no).mpr hindex] at hseq_no
    cases hseq_no
  | some seq_no =>
    have hmem := (h.seqno_iff identifier seq_no).mp hseq_no
    have hsome : (data.keys.find? fun index => index.block_identifier = identifier).isSome :=
      List.find?_isSome.mpr ⟨_, hmem, by simp⟩
    obtain ⟨index, hfind⟩ := Option.isSome_iff_exists.mp hsome
    have hidentifier : index.block_identifier = identifier := by
      simpa using List.find?_some hfind
    obtain ⟨seq_no', identifier'⟩ := index
    simp only at hidentifier
    subst hidentifier
    rw [hfind, Option.map_some, h.seq_no_unique (List.mem_of_find?_eq_some hfind) hmem]

/-- The lookup through the index finds the block a scan of the queue in order finds. -/
theorem Indexed.get_block_by_id {data : UnfinalizedBlocksData B V} (h : data.Indexed)
    (identifier : B) :
    data.get_block_by_id identifier =
      (data.blocks.find? fun entry => entry.1.block_identifier = identifier).map Prod.snd := by
  unfold UnfinalizedBlocksData.get_block_by_id
  cases hseq_no : data.identifier_to_seqno identifier with
  | none =>
    rw [Option.bind_none, eq_comm, Option.map_eq_none_iff, List.find?_eq_none]
    intro entry hentry hidentifier
    simp only [decide_eq_true_eq] at hidentifier
    have hmem : ⟨entry.1.block_seq_no, identifier⟩ ∈ data.keys := by
      rw [← hidentifier]
      exact List.mem_map_of_mem hentry
    rw [(h.seqno_iff identifier _).mpr hmem] at hseq_no
    cases hseq_no
  | some seq_no =>
    rw [Option.bind_some]
    apply OrderedMap.lookup_eq_find? BlockIndex.block_identifier
    rintro ⟨seq_no', identifier'⟩ hmem hidentifier
    simp only at hidentifier
    subst hidentifier
    rw [h.seq_no_unique hmem ((h.seqno_iff identifier' seq_no).mp hseq_no)]

end UnfinalizedBlocksData

open UnfinalizedBlocksData in
/-- One event keeps the indexes right, when an insertion's identifier is not queued with another
    sequence number. -/
theorem QueueEvent.apply_indexed {data : UnfinalizedBlocksData B V} (h : data.Indexed)
    (event : QueueEvent B V T)
    (hfresh : ∀ index ∈ event.inserted, ∀ seq_no,
      ⟨seq_no, index.block_identifier⟩ ∈ data.keys → seq_no = index.block_seq_no) :
    (event.apply data).Indexed := by
  cases event with
  | insert index value => exact h.insert (hfresh index rfl) value
  | remove_finalized_and_invalidated_blocks states =>
    simp only [QueueEvent.apply]
    exact (h.retain _).1
  | remove_old_blocks states last_finalized_block_seq_no =>
    simp only [QueueEvent.apply]
    exact (h.retain _).1

/-- An event only queues the index it inserts. -/
theorem QueueEvent.mem_keys_apply {data : UnfinalizedBlocksData B V} (h : data.Indexed)
    (event : QueueEvent B V T) {k : BlockIndex B} (hk : k ∈ (event.apply data).keys) :
    k ∈ data.keys ∨ k ∈ event.inserted := by
  cases event with
  | insert index value =>
    rcases UnfinalizedBlocksData.mem_keys_insert.mp hk with rfl | hk
    · exact .inr rfl
    · exact .inl hk
  | remove_finalized_and_invalidated_blocks states =>
    left
    simp only [QueueEvent.apply, UnfinalizedBlocksData.remove_finalized_and_invalidated_blocks,
      UnfinalizedBlocksData.keys, (h.retain _).2, List.mem_map, List.mem_filter] at hk ⊢
    obtain ⟨entry, ⟨hentry, -⟩, rfl⟩ := hk
    exact ⟨entry, hentry, rfl⟩
  | remove_old_blocks states last_finalized_block_seq_no =>
    left
    simp only [QueueEvent.apply, UnfinalizedBlocksData.remove_old_blocks,
      UnfinalizedBlocksData.keys, (h.retain _).2, List.mem_map, List.mem_filter] at hk ⊢
    obtain ⟨entry, ⟨hentry, -⟩, rfl⟩ := hk
    exact ⟨entry, hentry, rfl⟩

open UnfinalizedBlocksData in
/-- Over any run of insertions and removals from an empty queue in which an identifier is only
    ever inserted with one sequence number, the lookup through the index finds the block a scan of
    the queue in order finds; the snapshot finalization walks finds the identifier at the
    sequence number the index gives; and the identifier set holds exactly the identifiers the
    snapshot finds. -/
theorem get_block_by_id_agrees_with_queue {events : List (QueueEvent B V T)}
    (hinserted : ∀ index ∈ events.filterMap QueueEvent.inserted,
      ∀ index' ∈ events.filterMap QueueEvent.inserted,
        index.block_identifier = index'.block_identifier → index.block_seq_no = index'.block_seq_no)
    (identifier : B) :
    (events.foldl QueueEvent.apply default).get_block_by_id identifier =
        ((events.foldl QueueEvent.apply default).blocks.find? fun entry =>
          entry.1.block_identifier = identifier).map Prod.snd ∧
      (events.foldl QueueEvent.apply default).clone_queue.get_block_by_id identifier =
        ((events.foldl QueueEvent.apply default).identifier_to_seqno identifier).map
          (fun seq_no => (⟨seq_no, identifier⟩ : BlockIndex B)) ∧
      ((events.foldl QueueEvent.apply default).block_id_set identifier = true ↔
        ((events.foldl QueueEvent.apply default).clone_queue.get_block_by_id identifier).isSome) := by
  have hrun : (events.foldl QueueEvent.apply default).Indexed ∧
      ∀ k ∈ (events.foldl QueueEvent.apply default).keys,
        k ∈ events.filterMap QueueEvent.inserted := Iterate.foldl_invariant
    (fun data : UnfinalizedBlocksData B V =>
      data.Indexed ∧ ∀ k ∈ data.keys, k ∈ events.filterMap QueueEvent.inserted)
    (fun event hevent data hdata => by
      obtain ⟨hindexed, hkeys⟩ := hdata
      have hinserted_event : ∀ index ∈ event.inserted,
          index ∈ events.filterMap QueueEvent.inserted :=
        fun index hindex => List.mem_filterMap.mpr ⟨event, hevent, hindex⟩
      refine ⟨QueueEvent.apply_indexed hindexed event fun index hindex seq_no hmem => ?_,
        fun k hk => ?_⟩
      · exact hinserted _ (hkeys _ hmem) index (hinserted_event index hindex) rfl
      · rcases QueueEvent.mem_keys_apply hindexed event hk with hk | hk
        · exact hkeys k hk
        · exact hinserted_event k hk)
    ⟨indexed_default, by simp [keys, default]⟩
  obtain ⟨hindexed, -⟩ := hrun
  refine ⟨hindexed.get_block_by_id identifier, hindexed.clone_queue_get_block_by_id identifier, ?_⟩
  rw [hindexed.clone_queue_get_block_by_id identifier, hindexed.id_set_iff identifier,
    Option.isSome_map]
  constructor
  · rintro ⟨seq_no, hmem⟩
    rw [(hindexed.seqno_iff identifier seq_no).mpr hmem]
    rfl
  · intro hsome
    obtain ⟨seq_no, hseq_no⟩ := Option.isSome_iff_exists.mp hsome
    exact ⟨seq_no, (hindexed.seqno_iff identifier seq_no).mp hseq_no⟩

/-- Block states whose sequence number is the identifier's tens. -/
def sample_states (identifier : Nat) : AckiNackiBlockState Nat Nat :=
  { AckiNackiBlockState.new identifier with block_seq_no := some (identifier / 10) }

/-- Three blocks queued, two of them of one sequence number, then the blocks up to sequence
    number `1` removed. -/
def sample_queue_events : List (QueueEvent Nat Unit Nat) :=
  [.insert ⟨1, 10⟩ (), .insert ⟨2, 20⟩ (), .insert ⟨2, 21⟩ (), .remove_old_blocks sample_states 1]

theorem get_block_by_id_agrees_on_sample_run :
    (sample_queue_events.foldl QueueEvent.apply default).get_block_by_id 20 =
        ((sample_queue_events.foldl QueueEvent.apply default).blocks.find? fun entry =>
          entry.1.block_identifier = 20).map Prod.snd ∧
      (sample_queue_events.foldl QueueEvent.apply default).clone_queue.get_block_by_id 20 =
        ((sample_queue_events.foldl QueueEvent.apply default).identifier_to_seqno 20).map
          (fun seq_no => (⟨seq_no, 20⟩ : BlockIndex Nat)) ∧
      ((sample_queue_events.foldl QueueEvent.apply default).block_id_set 20 = true ↔
        ((sample_queue_events.foldl QueueEvent.apply default).clone_queue.get_block_by_id
          20).isSome) :=
  get_block_by_id_agrees_with_queue (by decide) 20

end ackinacki.node.unprocessed_blocks_collection
