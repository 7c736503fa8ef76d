import AckiNacki.MessageQueue.Diff
import AckiNacki.Repository.DAppIdTable
import AckiNacki.Bitmask.DirectBitAccess
import AckiNacki.Bitmask.Merge

namespace ackinacki.types

/-- `UInt256` compares as the number it is. -/
instance : LinearOrder AccountAddress :=
  LinearOrder.lift' (fun address => address.val.toNat) fun a b h => by
    cases a
    cases b
    simpa [BitVec.toNat_inj] using h

end ackinacki.types

namespace ackinacki.repository.optimistic_state

open ackinacki.types ackinacki.bitmask ackinacki.repository ackinacki.thread_message_queue
open ackinacki.account_inbox (DurableStorageRead)

/-- The field of a shard account that routing reads: its dapp identifier, a `UInt256`. -/
structure ShardAccount where
  dapp_id : Option AccountAddress
  deriving DecidableEq

/-- An out message of the shard state's queue, as cropping reads it: the destination address of
    its internal header, `none` for a message without one. -/
structure OutMessage where
  int_dst : Option AccountAddress
  deriving DecidableEq

/-- `ShardStateUnsplit`, as far as cropping reads and writes it: the accounts by address, and the
    out message queue by key. -/
structure ShardState (Q : Type) [DecidableEq Q] where
  accounts : AList (fun _ : AccountAddress => ShardAccount)
  out_queue : AList (fun _ : Q => OutMessage)

/-- The fields of `OptimisticStateImpl` that cropping and routing read or write. -/
structure OptimisticStateImpl (Q K M L : Type) [DecidableEq Q] where
  shard_state : ShardState Q
  messages : ThreadMessageQueueState AccountAddress K M
  threads_table : ThreadsTable
  thread_id : ThreadIdentifier
  dapp_id_table : DAppIdTable AccountAddress DAppIdentifier L
  cropped : Option (ThreadIdentifier × ThreadsTable)

/-- `get_account_routing_for_account`: an account without a dapp identifier is its own dapp. -/
def get_account_routing_for_account (account_address : AccountAddress)
    (dapp_id : Option AccountAddress) : AccountRouting :=
  AccountRouting.from (dapp_id.map DAppIdentifier.mk) account_address

/-- The routing of an address by the dapp identifier table, as `get_account_routing` and the out
    message loop of `crop_shard_state_based_on_threads_table` both compute it. -/
def routing_by_table {L : Type} (dapp_id_table : DAppIdTable AccountAddress DAppIdentifier L)
    (account_address : AccountAddress) : AccountRouting :=
  match dapp_id_table.get account_address with
  | some (some dapp_id, _) => ⟨dapp_id, account_address⟩
  | _ => ⟨⟨account_address⟩, account_address⟩

/-- The addresses of a list whose routing does not fall to `thread_id`; `none` is the panic of a
    table no rule of which matches. -/
def not_matching {α : Type} (threads_table : ThreadsTable) (thread_id : ThreadIdentifier)
    (routing : α → AccountRouting) (items : List α) : Option (List α) :=
  items.filterMapM fun item =>
    (threads_table.is_match (routing item) thread_id).map fun matched =>
      if matched then none else some item

section Crop

variable {Q K M E L : Type} [DecidableEq Q] [DecidableEq K]

/-- `crop_shard_state_based_on_threads_table`: out messages whose destination routes to
    another thread, or that have no internal destination, and accounts whose routing falls to
    another thread are removed; the removed accounts are returned. Every account is visited, so
    the callback takes every one of them out of the message destinations. -/
def crop_shard_state_based_on_threads_table (shard_state : ShardState Q)
    (threads_table : ThreadsTable) (thread_id : ThreadIdentifier)
    (dapp_id_table : DAppIdTable AccountAddress DAppIdentifier L)
    (optimization_skip_shard_accounts_crop : Bool) :
    Option (ShardState Q × List AccountAddress) := do
  let message_keys_to_remove_from_state ← shard_state.out_queue.entries.filterMapM fun entry =>
    match entry.2.int_dst with
    | some dest_address =>
      (threads_table.is_match (routing_by_table dapp_id_table dest_address) thread_id).map
        fun matched => if matched then none else some entry.1
    | none => some (some entry.1)
  let out_queue := message_keys_to_remove_from_state.foldl (fun queue key => queue.erase key)
    shard_state.out_queue
  if optimization_skip_shard_accounts_crop then pure (⟨shard_state.accounts, out_queue⟩, [])
  else
    let accounts_to_remove ← not_matching threads_table thread_id
      (fun entry => get_account_routing_for_account entry.1 entry.2.dapp_id)
      shard_state.accounts.entries
    let keys_to_remove_from_state := accounts_to_remove.map (·.1)
    pure (⟨keys_to_remove_from_state.foldl (fun accounts key => accounts.erase key)
      shard_state.accounts, out_queue⟩, keys_to_remove_from_state)

/-- `OptimisticStateImpl::crop`; the outer `none` is a panic of the threads table. A state
    already cropped to the same thread and table is left as it is. -/
def crop (key : M → K) (self : OptimisticStateImpl Q K M L) (thread_identifier : ThreadIdentifier)
    (threads_table : ThreadsTable) (message_db : DurableStorageRead K M E) :
    Option (Except (FromMapsError AccountAddress) (OptimisticStateImpl Q K M L)) :=
  let crop_state := some (thread_identifier, threads_table)
  if crop_state = self.cropped then some (.ok self)
  else do
    let (filtered_state, removed_accounts) ← crop_shard_state_based_on_threads_table
      self.shard_state threads_table thread_identifier self.dapp_id_table false
    let message_destinations_that_do_not_exist :=
      self.messages.order_set.toList.filter (· ∉ self.shard_state.accounts)
    let removed_destinations ← not_matching threads_table thread_identifier
      (fun account_address => ⟨⟨account_address⟩, account_address⟩)
      message_destinations_that_do_not_exist
    let diff : ThreadMessageQueueStateDiff AccountAddress K M E :=
      ⟨self.messages, ∅, removed_accounts ++ removed_destinations, ∅, ∅, message_db⟩
    pure <| (diff.from_maps key).map fun messages =>
      { self with
        shard_state := filtered_state
        messages
        cropped := crop_state
        threads_table
        thread_id := thread_identifier }

end Crop

/-- `get_account_routing`: a change set's entry first, then the dapp identifier table. -/
def get_account_routing {Q K M L : Type} [DecidableEq Q] (self : OptimisticStateImpl Q K M L)
    (account_address : AccountAddress)
    (change_set : Option (DAppIdTableChangeSet AccountAddress DAppIdentifier L)) : AccountRouting :=
  match change_set.bind (·.get_value account_address) with
  | some (some dapp, _) => ⟨dapp, account_address⟩
  | some (none, _) => ⟨⟨account_address⟩, account_address⟩
  | none => routing_by_table self.dapp_id_table account_address

section Spec

variable {threads_table : ThreadsTable} {thread_id : ThreadIdentifier}

theorem find_match_eq_some (hlast : threads_table.DefaultLast) (routing : AccountRouting) :
    ∃ thread, threads_table.find_match routing = some thread :=
  Option.isSome_iff_exists.mp (hlast.find_match_isSome AccountRouting.default_is_match routing)

/-- With the default rule last, a routing always answers whether it falls to the thread. -/
theorem is_match_eq_some (hlast : threads_table.DefaultLast) (routing : AccountRouting) :
    threads_table.is_match routing thread_id =
      some (decide (threads_table.find_match routing = some thread_id)) := by
  obtain ⟨thread, hthread⟩ := find_match_eq_some hlast routing
  by_cases hsame : thread = thread_id <;> simp [BitmasksTable.is_match, hthread, hsame]

theorem not_matching_eq (hlast : threads_table.DefaultLast) {α : Type}
    (routing : α → AccountRouting) (items : List α) :
    not_matching threads_table thread_id routing items =
      some (items.filter fun item => threads_table.find_match (routing item) ≠ some thread_id) := by
  unfold not_matching
  rw [Iterate.filterMapM_option_eq_some (g := Option.guard fun item =>
    threads_table.find_match (routing item) ≠ some thread_id), List.filterMap_eq_filter]
  intro item _
  by_cases hmatch : threads_table.find_match (routing item) = some thread_id <;>
    simp [is_match_eq_some hlast, hmatch, Option.guard]

/-- Whether a crop to `thread_id` keeps an out message: an internal one whose destination routes
    there by the dapp identifier table. -/
def keeps_out_message {L : Type} (threads_table : ThreadsTable) (thread_id : ThreadIdentifier)
    (dapp_id_table : DAppIdTable AccountAddress DAppIdentifier L) (message : OutMessage) : Bool :=
  match message.int_dst with
  | some dest_address =>
    decide (threads_table.find_match (routing_by_table dapp_id_table dest_address) = some thread_id)
  | none => false

variable {Q L : Type} [DecidableEq Q]

/-- The key of an out message the crop removes. -/
def removed_out_message_key (threads_table : ThreadsTable)
    (thread_id : ThreadIdentifier) (dapp_id_table : DAppIdTable AccountAddress DAppIdentifier L)
    (entry : Sigma fun _ : Q => OutMessage) : Option Q :=
  if keeps_out_message threads_table thread_id dapp_id_table entry.2 then none else some entry.1

theorem mem_removed_out_message_keys {dapp_id_table : DAppIdTable AccountAddress DAppIdentifier L}
    (out_queue : AList (fun _ : Q => OutMessage)) (key : Q) :
    key ∈ out_queue.entries.filterMap
        (removed_out_message_key threads_table thread_id dapp_id_table) ↔
      ∃ message, out_queue.lookup key = some message ∧
        keeps_out_message threads_table thread_id dapp_id_table message = false := by
  simp only [List.mem_filterMap, removed_out_message_key]
  constructor
  · rintro ⟨⟨k, message⟩, hmem, hkey⟩
    split_ifs at hkey with hkeeps
    cases hkey
    exact ⟨message, AList.mem_lookup_iff.mpr hmem, by simpa using hkeeps⟩
  · rintro ⟨message, hlookup, hkeeps⟩
    exact ⟨⟨key, message⟩, AList.mem_lookup_iff.mp hlookup, by simp [hkeeps]⟩

/-- What cropping the shard state keeps: the accounts whose own routing falls to the thread, and
    the out messages `keeps_out_message` keeps. The removed accounts are the others. -/
theorem crop_shard_state_based_on_threads_table_spec (hlast : threads_table.DefaultLast)
    (shard_state : ShardState Q) (dapp_id_table : DAppIdTable AccountAddress DAppIdentifier L) :
    ∃ filtered_state removed_accounts,
      crop_shard_state_based_on_threads_table shard_state threads_table thread_id dapp_id_table
          false = some (filtered_state, removed_accounts) ∧
      (∀ address, address ∈ removed_accounts ↔ ∃ account,
        shard_state.accounts.lookup address = some account ∧
        threads_table.find_match (get_account_routing_for_account address account.dapp_id) ≠
          some thread_id) ∧
      (∀ address, filtered_state.accounts.lookup address =
        (shard_state.accounts.lookup address).filter fun account =>
          threads_table.find_match (get_account_routing_for_account address account.dapp_id) =
            some thread_id) ∧
      ∀ key, filtered_state.out_queue.lookup key = (shard_state.out_queue.lookup key).filter
        (keeps_out_message threads_table thread_id dapp_id_table) := by
  have hout : shard_state.out_queue.entries.filterMapM (fun entry =>
      match entry.2.int_dst with
      | some dest_address =>
        (threads_table.is_match (routing_by_table dapp_id_table dest_address) thread_id).map
          fun matched => if matched then none else some entry.1
      | none => some (some entry.1)) =
      some (shard_state.out_queue.entries.filterMap
        (removed_out_message_key threads_table thread_id dapp_id_table)) := by
    refine Iterate.filterMapM_option_eq_some ?_
    rintro ⟨key, message⟩ -
    cases hdst : message.int_dst with
    | none => simp [removed_out_message_key, keeps_out_message, hdst]
    | some dest_address =>
      by_cases hmatch :
          threads_table.find_match (routing_by_table dapp_id_table dest_address) = some thread_id <;>
        simp [removed_out_message_key, keeps_out_message, hdst, is_match_eq_some hlast, hmatch]
  simp only [crop_shard_state_based_on_threads_table, hout, not_matching_eq hlast,
    Option.bind_eq_bind, Option.bind_some, Bool.false_eq_true, if_false, Option.pure_def]
  refine ⟨_, _, rfl, fun address => ?_, fun address => ?_, fun key => ?_⟩
  · rw [Iterate.mem_keys_filter]
    simp
  · refine Iterate.lookup_foldl_erase_filter ?_
    rw [Iterate.mem_keys_filter]
    simp
  · exact Iterate.lookup_foldl_erase_filter (mem_removed_out_message_keys _ key)

/-- Whether a crop to `thread_id` removes the inbox of an address: one with an account goes with
    its account; one without is removed when it is queued and its address, as its own dapp, routes
    elsewhere. -/
def crop_removes_inbox {K M : Type} (self : OptimisticStateImpl Q K M L)
    (threads_table : ThreadsTable) (thread_id : ThreadIdentifier) (address : AccountAddress) :
    Bool :=
  match self.shard_state.accounts.lookup address with
  | some account => decide
    (threads_table.find_match (get_account_routing_for_account address account.dapp_id) ≠
      some thread_id)
  | none => decide (address ∈ self.messages.order_set.toList ∧
    threads_table.find_match ⟨⟨address⟩, address⟩ ≠ some thread_id)

/-- Every crop that ends well records the thread and the table it cropped to. -/
theorem cropped_of_crop {K M E : Type} [DecidableEq K] {key : M → K}
    {self cropped : OptimisticStateImpl Q K M L} {message_db : DurableStorageRead K M E}
    (h : crop key self thread_id threads_table message_db = some (.ok cropped)) :
    cropped.cropped = some (thread_id, threads_table) := by
  unfold crop at h
  dsimp only at h
  split_ifs at h with hsame
  · cases h
    exact hsame.symm
  · simp only [Option.bind_eq_bind, Option.bind_eq_some_iff, Option.pure_def,
      Option.some.injEq] at h
    obtain ⟨_, -, _, -, hmap⟩ := h
    obtain ⟨_, -, rfl⟩ := Iterate.except_map_eq_ok.mp hmap
    rfl

/-- Cropping is idempotent: a state cropped to a thread and a table is its own crop to them. -/
theorem crop_crop {K M E : Type} [DecidableEq K] {key : M → K}
    {self cropped : OptimisticStateImpl Q K M L} {message_db : DurableStorageRead K M E}
    (h : crop key self thread_id threads_table message_db = some (.ok cropped)) :
    crop key cropped thread_id threads_table message_db = some (.ok cropped) := by
  simp [crop, cropped_of_crop h]

/-- The addresses whose inboxes a crop removes: those of the accounts the shard crop removes,
    and the queued ones without an account that `crop_removes_inbox` names. -/
theorem mem_removed_inboxes_iff {K M : Type} (self : OptimisticStateImpl Q K M L)
    {removed_accounts : List AccountAddress}
    (hremoved : ∀ address, address ∈ removed_accounts ↔ ∃ account,
      self.shard_state.accounts.lookup address = some account ∧
      threads_table.find_match (get_account_routing_for_account address account.dapp_id) ≠
        some thread_id) (address : AccountAddress) :
    address ∈ removed_accounts ++
        (self.messages.order_set.toList.filter (· ∉ self.shard_state.accounts)).filter
          (fun address => threads_table.find_match ⟨⟨address⟩, address⟩ ≠ some thread_id) ↔
      crop_removes_inbox self threads_table thread_id address = true := by
  rw [List.mem_append, hremoved, List.mem_filter, List.mem_filter, crop_removes_inbox]
  cases hlookup : self.shard_state.accounts.lookup address with
  | none =>
    have hnot : address ∉ self.shard_state.accounts := AList.lookup_eq_none.mp hlookup
    simp [hnot]
  | some account =>
    have hin : address ∈ self.shard_state.accounts :=
      AList.lookup_isSome.mp (by simp [hlookup])
    simp [hin]

/-- A first crop to a table with the default rule last succeeds: it records the thread and the
    table, keeps what `crop_shard_state_based_on_threads_table_spec` says of the shard state, and
    removes exactly the inboxes `crop_removes_inbox` names; cropping the result again to the
    same thread and table leaves it as it is. -/
theorem crop_spec {K M E : Type} [DecidableEq K] (hlast : threads_table.DefaultLast) (key : M → K)
    (self : OptimisticStateImpl Q K M L) (message_db : DurableStorageRead K M E)
    (hfirst : some (thread_id, threads_table) ≠ self.cropped) :
    ∃ cropped, crop key self thread_id threads_table message_db = some (.ok cropped) ∧
      cropped.cropped = some (thread_id, threads_table) ∧
      (∀ address, cropped.shard_state.accounts.lookup address =
        (self.shard_state.accounts.lookup address).filter fun account =>
          threads_table.find_match (get_account_routing_for_account address account.dapp_id) =
            some thread_id) ∧
      (∀ address, cropped.messages.account_inbox address =
        if crop_removes_inbox self threads_table thread_id address then none
        else self.messages.account_inbox address) ∧
      crop key cropped thread_id threads_table message_db = some (.ok cropped) := by
  obtain ⟨filtered_state, removed_accounts, hshard, hremoved, haccounts, -⟩ :=
    @crop_shard_state_based_on_threads_table_spec threads_table thread_id _ _ _ hlast
      self.shard_state self.dapp_id_table
  obtain ⟨messages, hdiff, hinbox⟩ := ThreadMessageQueueStateDiff.from_maps_remove_accounts key
    self.messages (removed_accounts ++
      (self.messages.order_set.toList.filter (· ∉ self.shard_state.accounts)).filter fun address =>
        threads_table.find_match ⟨⟨address⟩, address⟩ ≠ some thread_id) message_db
  have hcrop : crop key self thread_id threads_table message_db = some (.ok { self with
      shard_state := filtered_state
      messages
      cropped := some (thread_id, threads_table)
      threads_table
      thread_id }) := by
    simp only [crop, if_neg hfirst, hshard, not_matching_eq hlast, Option.bind_eq_bind,
      Option.bind_some, hdiff]
    rfl
  refine ⟨_, hcrop, rfl, haccounts, fun address => ?_, crop_crop hcrop⟩
  simp only [ThreadMessageQueueState.account_inbox, hinbox address,
    mem_removed_inboxes_iff self hremoved address]

end Spec

/-- An address with an inbox and no account, and the dapp the table gives it: the first bit of
    the dapp identifier is set, and that of the address clear. -/
def inbox_address : AccountAddress := ⟨0⟩

def inbox_dapp : DAppIdentifier := ⟨⟨1#256 <<< 255⟩⟩

/-- A state with the inbox of `inbox_address`, no account and no out message, and a table
    entry giving the address the dapp `inbox_dapp`. -/
def dapp_inbox_state : OptimisticStateImpl Nat Nat Nat Nat :=
  { shard_state := ⟨∅, ∅⟩
    messages := ⟨AList.insert inbox_address ⟨none, [(1, 1)]⟩ ∅, ⟨[inbox_address], by simp⟩, 0⟩
    threads_table := BitmasksTable.new
    thread_id := default
    dapp_id_table := ⟨AList.insert inbox_address (some inbox_dapp, 0) ∅⟩
    cropped := none }

/-- A store that is never read: cropping consumes no message. -/
def unread_store : DurableStorageRead Nat Nat Unit :=
  ⟨fun _ => .error (), fun _ => .ok none, fun _ _ => .ok []⟩

theorem crop_keeps_inbox_off_its_routing :
    get_account_routing dapp_inbox_state inbox_address none = ⟨inbox_dapp, inbox_address⟩ ∧
      one_thread_table.find_match ⟨inbox_dapp, inbox_address⟩ = some thread_one ∧
      (∃ cropped, crop id dapp_inbox_state thread_one one_thread_table unread_store =
        some (.ok cropped) ∧ cropped.messages.account_inbox inbox_address = none) ∧
      ∃ cropped, crop id dapp_inbox_state default one_thread_table unread_store =
        some (.ok cropped) ∧ (cropped.messages.account_inbox inbox_address).isSome := by
  refine ⟨rfl, by decide +kernel, ⟨_, rfl, by decide +kernel⟩, ⟨_, rfl, by decide +kernel⟩⟩

theorem crop_spec_on_dapp_inbox_state :
    ∃ cropped, crop id dapp_inbox_state thread_one one_thread_table unread_store =
        some (.ok cropped) ∧
      cropped.cropped = some (thread_one, one_thread_table) ∧
      (∀ address, cropped.shard_state.accounts.lookup address =
        (dapp_inbox_state.shard_state.accounts.lookup address).filter fun account =>
          one_thread_table.find_match (get_account_routing_for_account address account.dapp_id) =
            some thread_one) ∧
      (∀ address, cropped.messages.account_inbox address =
        if crop_removes_inbox dapp_inbox_state one_thread_table thread_one address then none
        else dapp_inbox_state.messages.account_inbox address) ∧
      crop id cropped thread_one one_thread_table unread_store = some (.ok cropped) :=
  crop_spec (show one_thread_table.DefaultLast from rfl) id dapp_inbox_state unread_store
    (by decide)

end ackinacki.repository.optimistic_state
