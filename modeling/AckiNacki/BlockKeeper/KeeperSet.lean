import Mathlib.Data.List.AList
import Mathlib.Data.List.Sort
import Mathlib.Data.Finset.Card
import Mathlib.Algebra.Group.Nat.Defs
import AckiNacki.Lib.Iterate

namespace ackinacki.block_keeper_system

/-- The fields of `BlockKeeperData` the set reads: the signing key and the wallet address,
    which is the keeper's node identifier. -/
structure BlockKeeperData (P N : Type) where
  pubkey : P
  owner_address : N
  deriving DecidableEq, Repr

def BlockKeeperData.node_id {P N : Type} (self : BlockKeeperData P N) : N := self.owner_address

inductive BlockKeeperSetChange (S P N : Type) where
  | BlockKeeperAdded (signer_index : S) (block_keeper_data : BlockKeeperData P N)
  | BlockKeeperRemoved (signer_index : S) (block_keeper_data : BlockKeeperData P N)
  | FutureBlockKeeperAdded (signer_index : S) (block_keeper_data : BlockKeeperData P N)
  deriving DecidableEq, Repr

/-- `BlockKeeperSet`; the `BTreeMap` of signers by node is an association list whose keys
    `iter_node_ids` sorts. -/
structure BlockKeeperSet (S P N : Type) where
  by_signer : AList (fun _ : S => BlockKeeperData P N)
  signer_to_pubkey : AList (fun _ : S => P)
  signer_by_node_id : AList (fun _ : N => S)

namespace BlockKeeperSet

variable {S P N : Type} [DecidableEq S] [DecidableEq N]

def new : BlockKeeperSet S P N := ⟨∅, ∅, ∅⟩

def len (self : BlockKeeperSet S P N) : Nat := self.by_signer.entries.length

def insert (self : BlockKeeperSet S P N) (signer_index : S) (keeper : BlockKeeperData P N) :
    BlockKeeperSet S P N :=
  let node_id := keeper.node_id
  { signer_to_pubkey := self.signer_to_pubkey.insert signer_index keeper.pubkey
    by_signer := self.by_signer.insert signer_index keeper
    signer_by_node_id := self.signer_by_node_id.insert node_id signer_index }

def contains_signer (self : BlockKeeperSet S P N) (signer_index : S) : Bool :=
  (self.by_signer.lookup signer_index).isSome

def get_by_signer (self : BlockKeeperSet S P N) (signer_index : S) :
    Option (BlockKeeperData P N) :=
  self.by_signer.lookup signer_index

def get_by_node_id (self : BlockKeeperSet S P N) (node_id : N) : Option (BlockKeeperData P N) :=
  (self.signer_by_node_id.lookup node_id).bind fun x => self.by_signer.lookup x

/-- `remove_signer` drops the node entry of the removed keeper, whichever signer it names now. -/
def remove_signer (self : BlockKeeperSet S P N) (signer_index : S) :
    Option (BlockKeeperData P N) × BlockKeeperSet S P N :=
  let removed := self.by_signer.lookup signer_index
  let signer_by_node_id :=
    match removed with
    | some keeper => self.signer_by_node_id.erase keeper.node_id
    | none => self.signer_by_node_id
  (removed, ⟨self.by_signer.erase signer_index, self.signer_to_pubkey.erase signer_index,
    signer_by_node_id⟩)

/-- `Deserialize`: only the keepers are stored; both indexes are rebuilt from them, in the
    order the map is read. -/
def deserialize (items : AList (fun _ : S => BlockKeeperData P N)) : BlockKeeperSet S P N :=
  let indexes := items.entries.foldl
    (fun (indexes : AList (fun _ : S => P) × AList (fun _ : N => S)) entry =>
      (indexes.1.insert entry.1 entry.2.pubkey, indexes.2.insert entry.2.node_id entry.1))
    (∅, ∅)
  ⟨items, indexes.1, indexes.2⟩

/-- `iter_node_ids`: the node identifiers in the order of the `BTreeMap`. -/
def iter_node_ids [LinearOrder N] (self : BlockKeeperSet S P N) : List N :=
  self.signer_by_node_id.keys.insertionSort (· ≤ ·)

end BlockKeeperSet

namespace bk_set

variable {S P N : Type} [DecidableEq S] [DecidableEq N]

/-- The first loop: every removal of the common section. -/
def remove_block_keepers (changes : List (BlockKeeperSetChange S P N))
    (new_bk_set : BlockKeeperSet S P N) : BlockKeeperSet S P N :=
  changes.foldl
    (fun new_bk_set block_keeper_change =>
      match block_keeper_change with
      | .BlockKeeperRemoved signer_index _ => (new_bk_set.remove_signer signer_index).2
      | _ => new_bk_set)
    new_bk_set

/-- The second loop: every addition, which also leaves the set of the next epoch. -/
def add_block_keepers (changes : List (BlockKeeperSetChange S P N))
    (sets : BlockKeeperSet S P N × BlockKeeperSet S P N) :
    BlockKeeperSet S P N × BlockKeeperSet S P N :=
  changes.foldl
    (fun sets block_keeper_change =>
      match block_keeper_change with
      | .BlockKeeperAdded signer_index block_keeper_data =>
        (sets.1.insert signer_index block_keeper_data,
          if sets.2.contains_signer signer_index then (sets.2.remove_signer signer_index).2
          else sets.2)
      | _ => sets)
    sets

/-- The third loop: every keeper of the next epoch. -/
def add_future_block_keepers (changes : List (BlockKeeperSetChange S P N))
    (new_future_bk_set : BlockKeeperSet S P N) : BlockKeeperSet S P N :=
  changes.foldl
    (fun new_future_bk_set block_keeper_change =>
      match block_keeper_change with
      | .FutureBlockKeeperAdded signer_index block_keeper_data =>
        new_future_bk_set.insert signer_index block_keeper_data
      | _ => new_future_bk_set)
    new_future_bk_set

/-- `update_block_keeper_set_from_common_section`, on the block's list of changes; it never
    fails, and `none` means the block changes nothing. -/
def update_block_keeper_set_from_common_section (changes : List (BlockKeeperSetChange S P N))
    (current_bk_set current_future_bk_set : BlockKeeperSet S P N) :
    Option (BlockKeeperSet S P N × BlockKeeperSet S P N) :=
  if changes.isEmpty then none
  else
    let new_bk_set := remove_block_keepers changes current_bk_set
    let sets := add_block_keepers changes (new_bk_set, current_future_bk_set)
    some (sets.1, add_future_block_keepers changes sets.2)

end bk_set

namespace BlockKeeperSet

variable {S P N : Type} [DecidableEq S] [DecidableEq N] {self : BlockKeeperSet S P N}

/-- Every signer's key is the key of its keeper. -/
def PubkeysAgree (self : BlockKeeperSet S P N) : Prop :=
  ∀ signer_index, self.signer_to_pubkey.lookup signer_index =
    (self.by_signer.lookup signer_index).map (·.pubkey)

/-- Both indexes agree with the keepers: the node index is the inverse of the map from signers
    to the node identifiers of their keepers. They agree only while no node is staked under two
    signer indexes. -/
structure IndexesAgree (bk_set : BlockKeeperSet S P N) : Prop where
  pubkeys : bk_set.PubkeysAgree
  node_ids : ∀ node_id signer_index, bk_set.signer_by_node_id.lookup node_id = some signer_index ↔
    ∃ keeper, bk_set.by_signer.lookup signer_index = some keeper ∧ keeper.node_id = node_id

/-- Inserting `keeper` under `signer_index` stakes no node twice: the signer had no keeper or
    one of the same node, and the node had no signer or this one. -/
def StakesOnce (self : BlockKeeperSet S P N) (signer_index : S) (keeper : BlockKeeperData P N) :
    Prop :=
  (∀ old, self.by_signer.lookup signer_index = some old → old.node_id = keeper.node_id) ∧
    ∀ other, self.signer_by_node_id.lookup keeper.node_id = some other → other = signer_index

theorem new_indexes_agree : (new : BlockKeeperSet S P N).IndexesAgree :=
  ⟨fun _ => by simp [new], fun _ _ => by simp [new]⟩

theorem PubkeysAgree.insert (hagree : self.PubkeysAgree) (signer_index : S)
    (keeper : BlockKeeperData P N) : (self.insert signer_index keeper).PubkeysAgree := by
  intro s
  by_cases hs : s = signer_index
  · subst hs
    simp [BlockKeeperSet.insert]
  · simp [BlockKeeperSet.insert, AList.lookup_insert_ne hs, hagree s]

theorem PubkeysAgree.remove_signer (hagree : self.PubkeysAgree) (signer_index : S) :
    (self.remove_signer signer_index).2.PubkeysAgree := by
  intro s
  by_cases hs : s = signer_index
  · subst hs
    simp [BlockKeeperSet.remove_signer]
  · simp [BlockKeeperSet.remove_signer, AList.lookup_erase_ne hs, hagree s]

/-- Two signers found under one node are the same signer. -/
theorem IndexesAgree.signer_unique (hagree : self.IndexesAgree) {s s' : S}
    {keeper keeper' : BlockKeeperData P N} (hs : self.by_signer.lookup s = some keeper)
    (hs' : self.by_signer.lookup s' = some keeper') (hnode : keeper.node_id = keeper'.node_id) :
    s = s' := by
  have h := (hagree.node_ids keeper.node_id s).mpr ⟨keeper, hs, rfl⟩
  have h' := (hagree.node_ids keeper.node_id s').mpr ⟨keeper', hs', hnode.symm⟩
  rw [h] at h'
  exact Option.some.inj h'

/-- `remove_signer` keeps the indexes agreeing: the node entry it drops is the removed
    keeper's own. -/
theorem IndexesAgree.remove_signer (hagree : self.IndexesAgree) (signer_index : S) :
    (self.remove_signer signer_index).2.IndexesAgree := by
  refine ⟨hagree.pubkeys.remove_signer signer_index, fun n s => ?_⟩
  cases hremoved : self.by_signer.lookup signer_index with
  | none =>
    have hlookup : ∀ s', (self.by_signer.erase signer_index).lookup s' = self.by_signer.lookup s' := by
      intro s'
      by_cases hs' : s' = signer_index
      · subst hs'
        rw [AList.lookup_erase, hremoved]
      · exact AList.lookup_erase_ne hs'
    simp only [BlockKeeperSet.remove_signer, hremoved, hlookup]
    exact hagree.node_ids n s
  | some keeper =>
    simp only [BlockKeeperSet.remove_signer, hremoved]
    by_cases hn : n = keeper.node_id
    · subst hn
      simp only [AList.lookup_erase, reduceCtorEq, false_iff, not_exists, not_and]
      intro keeper' hs' hnode
      by_cases hs : s = signer_index
      · subst hs
        rw [AList.lookup_erase] at hs'
        cases hs'
      · rw [AList.lookup_erase_ne hs] at hs'
        exact hs (hagree.signer_unique hs' hremoved hnode)
    · rw [AList.lookup_erase_ne hn, hagree.node_ids n s]
      by_cases hs : s = signer_index
      · subst hs
        simp only [AList.lookup_erase, reduceCtorEq, false_and, exists_false, iff_false,
          not_exists, not_and, hremoved, Option.some.injEq]
        rintro _ rfl rfl
        exact hn rfl
      · rw [AList.lookup_erase_ne hs]

/-- `insert` keeps the indexes agreeing when it stakes no node twice. -/
theorem IndexesAgree.insert (hagree : self.IndexesAgree) {signer_index : S}
    {keeper : BlockKeeperData P N} (honce : self.StakesOnce signer_index keeper) :
    (self.insert signer_index keeper).IndexesAgree := by
  refine ⟨hagree.pubkeys.insert signer_index keeper, fun n s => ?_⟩
  simp only [BlockKeeperSet.insert]
  by_cases hn : n = keeper.node_id
  · subst hn
    rw [AList.lookup_insert]
    by_cases hs : s = signer_index
    · subst hs
      simp
    · rw [AList.lookup_insert_ne hs, ← hagree.node_ids]
      constructor
      · intro h
        exact absurd (Option.some.inj h).symm hs
      · intro h
        exact absurd (honce.2 s h) hs
  · rw [AList.lookup_insert_ne hn]
    by_cases hs : s = signer_index
    · subst hs
      rw [AList.lookup_insert]
      constructor
      · intro h
        obtain ⟨old, hold, hnode⟩ := (hagree.node_ids n s).mp h
        exact absurd (hnode.symm.trans (honce.1 old hold)) hn
      · rintro ⟨_, hkeeper, hnode⟩
        cases hkeeper
        exact absurd hnode.symm hn
    · rw [AList.lookup_insert_ne hs]
      exact hagree.node_ids n s

/-- Conversely, an `insert` that stakes a node twice breaks the agreement. -/
theorem IndexesAgree.stakes_once_of_insert (hagree : self.IndexesAgree) {signer_index : S}
    {keeper : BlockKeeperData P N} (hinsert : (self.insert signer_index keeper).IndexesAgree) :
    self.StakesOnce signer_index keeper := by
  constructor
  · intro old hold
    by_contra hne
    have hstale : (self.insert signer_index keeper).signer_by_node_id.lookup old.node_id =
        some signer_index := by
      simp only [BlockKeeperSet.insert]
      rw [AList.lookup_insert_ne hne]
      exact (hagree.node_ids _ _).mpr ⟨old, hold, rfl⟩
    obtain ⟨_, hkeeper, hnode⟩ := (hinsert.node_ids _ _).mp hstale
    simp only [BlockKeeperSet.insert, AList.lookup_insert, Option.some.injEq] at hkeeper
    subst hkeeper
    exact hne hnode.symm
  · intro other hother
    by_contra hne
    obtain ⟨other_keeper, hkeeper, hnode⟩ := (hagree.node_ids _ _).mp hother
    have hkept : (self.insert signer_index keeper).by_signer.lookup other = some other_keeper := by
      simp only [BlockKeeperSet.insert]
      rw [AList.lookup_insert_ne hne]
      exact hkeeper
    have hmoved := (hinsert.node_ids _ _).mpr ⟨other_keeper, hkept, hnode⟩
    simp only [BlockKeeperSet.insert, AList.lookup_insert, Option.some.injEq] at hmoved
    exact hne hmoved.symm

theorem IndexesAgree.insert_iff (hagree : self.IndexesAgree) (signer_index : S)
    (keeper : BlockKeeperData P N) :
    (self.insert signer_index keeper).IndexesAgree ↔ self.StakesOnce signer_index keeper :=
  ⟨hagree.stakes_once_of_insert, hagree.insert⟩

/-- While the indexes agree, there is one node identifier per keeper. -/
theorem IndexesAgree.len_eq (hagree : self.IndexesAgree) :
    self.len = self.signer_by_node_id.keys.length := by
  have hsigners : self.len = self.by_signer.keys.toFinset.card := by
    rw [List.toFinset_card_of_nodup self.by_signer.keys_nodup]
    simp [len, AList.keys, List.keys]
  rw [hsigners, ← List.toFinset_card_of_nodup self.signer_by_node_id.keys_nodup]
  refine Finset.card_bij
    (fun s hs => ((self.by_signer.lookup s).get
      (AList.lookup_isSome.mpr (AList.mem_keys.mpr (List.mem_toFinset.mp hs)))).node_id)
    ?_ ?_ ?_
  · intro s hs
    rw [List.mem_toFinset, ← AList.mem_keys, ← AList.lookup_isSome, Option.isSome_iff_exists]
    exact ⟨s, (hagree.node_ids _ s).mpr ⟨_, (Option.some_get _).symm, rfl⟩⟩
  · intro s hs s' hs' hnode
    exact hagree.signer_unique (Option.some_get _).symm (Option.some_get _).symm hnode
  · intro n hn
    rw [List.mem_toFinset, ← AList.mem_keys, ← AList.lookup_isSome, Option.isSome_iff_exists] at hn
    obtain ⟨s, hs⟩ := hn
    obtain ⟨keeper, hkeeper, hnode⟩ := (hagree.node_ids n s).mp hs
    refine ⟨s, ?_, ?_⟩
    · rw [List.mem_toFinset, ← AList.mem_keys, ← AList.lookup_isSome, hkeeper]
      rfl
    · simp [hkeeper, hnode]

/-- The key index a deserialized set rebuilds is the keys of its keepers. -/
theorem deserialize_pubkeys_agree (items : AList (fun _ : S => BlockKeeperData P N)) :
    (deserialize items).PubkeysAgree := by
  have hfst : ∀ (l : List ((_ : S) × BlockKeeperData P N)) (indexes : AList (fun _ : S => P) ×
      AList (fun _ : N => S)),
      (l.foldl (fun indexes entry =>
        (indexes.1.insert entry.1 entry.2.pubkey, indexes.2.insert entry.2.node_id entry.1))
        indexes).1 =
      l.foldl (fun m entry => m.insert entry.1 ((fun _ keeper => keeper.pubkey) entry.1 entry.2))
        indexes.1 := by
    intro l
    induction l with
    | nil => intro _; rfl
    | cons entry l ih => intro indexes; exact ih _
  intro s
  simp only [deserialize]
  rw [hfst, Iterate.lookup_foldl_insert (fun _ keeper => keeper.pubkey) _ items.nodupKeys]
  simp [AList.lookup]

/-- The sets a node can hold: new or deserialized sets, changed by `insert` and
    `remove_signer`. -/
inductive Reachable : BlockKeeperSet S P N → Prop
  | new : Reachable new
  | deserialize (items : AList (fun _ : S => BlockKeeperData P N)) : Reachable (deserialize items)
  | insert {bk_set : BlockKeeperSet S P N} (signer_index : S) (keeper : BlockKeeperData P N) :
      Reachable bk_set → Reachable (bk_set.insert signer_index keeper)
  | remove_signer {bk_set : BlockKeeperSet S P N} (signer_index : S) :
      Reachable bk_set → Reachable (bk_set.remove_signer signer_index).2

/-- Run lemma: the key index agrees with the keepers in every reachable set. -/
theorem Reachable.pubkeys_agree (hreach : Reachable self) : self.PubkeysAgree := by
  induction hreach with
  | new => exact new_indexes_agree.pubkeys
  | deserialize items => exact deserialize_pubkeys_agree items
  | insert signer_index keeper _ ih => exact ih.insert signer_index keeper
  | remove_signer signer_index _ ih => exact ih.remove_signer signer_index

end BlockKeeperSet

namespace bk_set

variable {S P N : Type} [DecidableEq S] [DecidableEq N]

open BlockKeeperSet

theorem remove_block_keepers_reachable (changes : List (BlockKeeperSetChange S P N))
    {bk_set : BlockKeeperSet S P N} (hreach : Reachable bk_set) :
    Reachable (remove_block_keepers changes bk_set) := by
  unfold remove_block_keepers
  refine Iterate.foldl_invariant Reachable (fun change _ bk_set hreach => ?_) hreach
  match change with
  | .BlockKeeperRemoved signer_index _ => exact hreach.remove_signer signer_index
  | .BlockKeeperAdded _ _ | .FutureBlockKeeperAdded _ _ => exact hreach

theorem add_block_keepers_reachable (changes : List (BlockKeeperSetChange S P N))
    {sets : BlockKeeperSet S P N × BlockKeeperSet S P N}
    (hreach : Reachable sets.1 ∧ Reachable sets.2) :
    Reachable (add_block_keepers changes sets).1 ∧ Reachable (add_block_keepers changes sets).2 := by
  unfold add_block_keepers
  refine Iterate.foldl_invariant
    (fun sets : BlockKeeperSet S P N × BlockKeeperSet S P N => Reachable sets.1 ∧ Reachable sets.2)
    (fun change _ sets hreach => ?_) hreach
  match change with
  | .BlockKeeperAdded signer_index keeper =>
    refine ⟨hreach.1.insert signer_index keeper, ?_⟩
    dsimp only
    split_ifs
    · exact hreach.2.remove_signer signer_index
    · exact hreach.2
  | .BlockKeeperRemoved _ _ | .FutureBlockKeeperAdded _ _ => exact hreach

theorem add_future_block_keepers_reachable (changes : List (BlockKeeperSetChange S P N))
    {bk_set : BlockKeeperSet S P N} (hreach : Reachable bk_set) :
    Reachable (add_future_block_keepers changes bk_set) := by
  unfold add_future_block_keepers
  refine Iterate.foldl_invariant Reachable (fun change _ bk_set hreach => ?_) hreach
  match change with
  | .FutureBlockKeeperAdded signer_index keeper => exact hreach.insert signer_index keeper
  | .BlockKeeperAdded _ _ | .BlockKeeperRemoved _ _ => exact hreach

/-- A block's changes take reachable sets to reachable sets. -/
theorem update_block_keeper_set_from_common_section_reachable
    {changes : List (BlockKeeperSetChange S P N)}
    {current_bk_set current_future_bk_set new_bk_set new_future_bk_set : BlockKeeperSet S P N}
    (h : update_block_keeper_set_from_common_section changes current_bk_set
      current_future_bk_set = some (new_bk_set, new_future_bk_set))
    (hcurrent : Reachable current_bk_set) (hfuture : Reachable current_future_bk_set) :
    Reachable new_bk_set ∧ Reachable new_future_bk_set := by
  simp only [update_block_keeper_set_from_common_section] at h
  split_ifs at h
  cases h
  have hadded : Reachable (add_block_keepers changes
        (remove_block_keepers changes current_bk_set, current_future_bk_set)).1 ∧
      Reachable (add_block_keepers changes
        (remove_block_keepers changes current_bk_set, current_future_bk_set)).2 :=
    add_block_keepers_reachable changes ⟨remove_block_keepers_reachable changes hcurrent, hfuture⟩
  exact ⟨hadded.1, add_future_block_keepers_reachable changes hadded.2⟩

/-- The key index of every set a node holds agrees with the keepers, through any block's
    changes. The node index agrees in a new set, and while it agrees an `insert` keeps it exactly
    when it stakes no node twice, and `remove_signer` always keeps it. -/
theorem bk_set_indexes_agree :
    (∀ (changes : List (BlockKeeperSetChange S P N)) current_bk_set current_future_bk_set
        new_bk_set new_future_bk_set,
      update_block_keeper_set_from_common_section changes current_bk_set current_future_bk_set =
          some (new_bk_set, new_future_bk_set) →
        Reachable current_bk_set → Reachable current_future_bk_set →
        Reachable new_bk_set ∧ Reachable new_future_bk_set ∧ new_bk_set.PubkeysAgree ∧
          new_future_bk_set.PubkeysAgree) ∧
      (new : BlockKeeperSet S P N).IndexesAgree ∧
      ∀ bk_set : BlockKeeperSet S P N, bk_set.IndexesAgree → ∀ signer_index keeper,
        ((bk_set.insert signer_index keeper).IndexesAgree ↔
          bk_set.StakesOnce signer_index keeper) ∧
        (bk_set.remove_signer signer_index).2.IndexesAgree := by
  refine ⟨fun changes _ _ _ _ h hcurrent hfuture => ?_, new_indexes_agree,
    fun bk_set hagree signer_index keeper =>
      ⟨hagree.insert_iff signer_index keeper, hagree.remove_signer signer_index⟩⟩
  obtain ⟨hnew, hnew_future⟩ :=
    update_block_keeper_set_from_common_section_reachable h hcurrent hfuture
  exact ⟨hnew, hnew_future, hnew.pubkeys_agree, hnew_future.pubkeys_agree⟩

end bk_set

end ackinacki.block_keeper_system
