import Mathlib.Data.Finset.Card
import AckiNacki.MessageQueue.State
import AckiNacki.Inbox.NextRange

namespace ackinacki.thread_message_queue

open ackinacki.account_inbox

/-- `from_maps::ThreadMessageQueueStateDiff`. Its hash maps are association lists, visited in
    the order of their entries; a set of consumed message keys is a finite set. -/
structure ThreadMessageQueueStateDiff (A K M E : Type) [LinearOrder A] where
  initial_state : ThreadMessageQueueState A K M
  consumed_messages : AList (fun _ : A => Finset K)
  removed_accounts : List A
  added_accounts : AList (fun _ : A => MessagesRange K M)
  produced_messages : AList (fun _ : A => List (K × M))
  db : DurableStorageRead K M E

/-- How the conversion fails: the error it returns, or one of the panics of its assertions,
    with the text the source gives it. -/
inductive FromMapsError (A : Type) where
  | UnexpectedConsumedMessage (addr : A)
  | Panic (message : String)
  deriving DecidableEq, Repr

namespace from_maps

variable {A K M E : Type} [LinearOrder A] [DecidableEq K]

/-- The "add accounts" phase for one account. The `fail-fast` feature, on by default, asserts
    that the account had no inbox. -/
def add_account (state : ThreadMessageQueueState A K M) (account_address : A)
    (inbox : MessagesRange K M) : Except (FromMapsError A) (ThreadMessageQueueState A K M) :=
  let prev := state.messages.lookup account_address
  if prev.isSome then .error (.Panic "dirty state detected")
  else
    .ok { state with
      messages := state.messages.insert account_address inbox
      order_set :=
        if !state.order_set.contains account_address then state.order_set.insert account_address
        else state.order_set }

/-- The keys of all produced messages. -/
def produced_ids (produced_messages : AList (fun _ : A => List (K × M))) : Finset K :=
  (produced_messages.entries.flatMap fun entry => entry.2.map Prod.fst).toFinset

/-- The consumed messages that are also produced by the same diff. -/
def intersection (consumed_messages : AList (fun _ : A => Finset K))
    (produced_messages : AList (fun _ : A => List (K × M))) : Finset K :=
  (consumed_messages.entries.foldr
    (fun (entry : (_ : A) × Finset K) acc => entry.2 ∪ acc) ∅).filter
      (· ∈ produced_ids produced_messages)

/-- The stored range after the head of the tail was found in the store: it ends at the last
    message found, and starts at the first one when there was no stored range yet. -/
def adjust_range (key : M → K) (range_ref : Option (K × K)) : List M → Option (K × K)
  | [] => range_ref
  | first :: rest =>
    let last := (first :: rest).getLast (List.cons_ne_nil _ _)
    match range_ref with
    | some (start, _) => some (start, key last)
    | none => some (key first, key last)

/-- "search the entire tail in the DB": fetch as many stored messages from the tail's first key
    as the tail is long, drop that many messages from the tail, and extend the stored range over
    them. The dropped head of the tail must have the keys of the fetched messages. -/
def search_tail (db : DurableStorageRead K M E) (key : M → K) (tail : List (K × M))
    (range_ref : Option (K × K)) :
    Except (FromMapsError A) (List (K × M) × Option (K × K)) :=
  match tail.head? with
  | none => .ok (tail, range_ref)
  | some (message_id, _) =>
    match db.remaining_messages message_id tail.length with
    | .error _ => .ok (tail, range_ref)
    | .ok db_messages =>
      let range_ref := adjust_range key range_ref db_messages
      let db_set := (db_messages.map key).toFinset
      if tail.length < db_set.card then .error (.Panic "`at` out of bounds")
      else
        let tail_set := ((tail.take db_set.card).map Prod.fst).toFinset
        if tail_set = db_set then .ok (tail.drop db_set.card, range_ref)
        else .error (.Panic "assertion `left == right` failed")

/-- The "add messages" phase for one account: drop the messages the diff also consumes, append
    the rest to the account's tail, and move what the store already holds into the range. -/
def add_messages (db : DurableStorageRead K M E) (key : M → K) (intersection : Finset K)
    (state : ThreadMessageQueueState A K M) (addr : A) (messages : List (K × M)) :
    Except (FromMapsError A) (ThreadMessageQueueState A K M) :=
  let messages := messages.filter fun message => message.1 ∉ intersection
  if messages.isEmpty then .ok state
  else
    let entry := (state.messages.lookup addr).getD MessagesRange.empty
    let order_set :=
      if !state.order_set.contains addr && !messages.isEmpty then state.order_set.insert addr
      else state.order_set
    match search_tail db key (entry.tail_sequence ++ messages) entry.compacted_history with
    | .error e => .error e
    | .ok (tail, range_ref) =>
      .ok { state with
        messages := state.messages.insert addr ⟨range_ref, tail⟩
        order_set := order_set }

/-- The "remove messages" phase for one account: consume as many messages as the diff consumed
    from it, check that they are the consumed ones, and drop the account once its inbox is
    empty. -/
def remove_messages (db : DurableStorageRead K M E) (key : M → K) (intersection : Finset K)
    (state : ThreadMessageQueueState A K M) (addr : A) (messages : Finset K) :
    Except (FromMapsError A) (ThreadMessageQueueState A K M) :=
  let messages := messages.filter (· ∉ intersection)
  if messages = ∅ then .ok state
  else
    match state.messages.lookup addr with
    | none => .error (.UnexpectedConsumedMessage addr)
    | some entry =>
      match (MessagesRangeIterator.new entry).next_range db key messages.card with
      | (.error _, _) => .error (.Panic "dirty state detected: iterator returned None or Err")
      | (.ok batch, it) =>
        if messages = (batch.map key).toFinset then
          if it.remaining.is_empty then
            .ok { state with
              messages := state.messages.erase addr
              order_set := state.order_set.remove addr }
          else .ok { state with messages := state.messages.insert addr it.remaining }
        else .error (.Panic "dirty state detected: mismatch in sets")

/-- The "remove accounts" phase for one account. -/
def remove_account (state : ThreadMessageQueueState A K M) (addr : A) :
    ThreadMessageQueueState A K M :=
  { state with
    messages := state.messages.erase addr
    order_set := state.order_set.remove addr }

end from_maps

open from_maps in
/-- `impl From<ThreadMessageQueueStateDiff> for anyhow::Result<ThreadMessageQueueState>`: the
    four phases in turn, then the cursor wrapped to the new number of accounts. -/
def ThreadMessageQueueStateDiff.from_maps {A K M E : Type} [LinearOrder A] [DecidableEq K]
    (key : M → K) (val : ThreadMessageQueueStateDiff A K M E) :
    Except (FromMapsError A) (ThreadMessageQueueState A K M) := do
  let state ← val.added_accounts.entries.foldlM
    (fun state entry => add_account state entry.1 entry.2) val.initial_state
  let intersection := intersection val.consumed_messages val.produced_messages
  let state ← val.produced_messages.entries.foldlM
    (fun state entry => add_messages val.db key intersection state entry.1 entry.2) state
  let state ← val.consumed_messages.entries.foldlM
    (fun state entry => remove_messages val.db key intersection state entry.1 entry.2) state
  let state := val.removed_accounts.foldl remove_account state
  let new_cursor :=
    if !state.messages.keys.isEmpty then val.initial_state.cursor % state.messages.keys.length
    else 0
  pure { state with cursor := new_cursor }

namespace from_maps

variable {A K M E : Type} [LinearOrder A] [DecidableEq K]
  {state state' : ThreadMessageQueueState A K M}

omit [DecidableEq K] in
theorem add_account_keys {a : A} {inbox : MessagesRange K M}
    (h : add_account state a inbox = .ok state') (hkeys : state.KeysAgree) : state'.KeysAgree := by
  simp only [add_account] at h
  split at h
  · cases h
  · cases h
    rw [OrderSet.insert_unless_contains]
    exact hkeys.insert a inbox

theorem add_messages_keys {db : DurableStorageRead K M E} {key : M → K} {inter : Finset K}
    {addr : A} {messages : List (K × M)}
    (h : add_messages db key inter state addr messages = .ok state') (hkeys : state.KeysAgree) :
    state'.KeysAgree := by
  simp only [add_messages] at h
  split at h
  · cases h
    exact hkeys
  · next hne =>
    split at h
    · cases h
    · cases h
      simp only [Bool.not_eq_true] at hne
      simp only [hne, Bool.not_false, Bool.and_true, OrderSet.insert_unless_contains]
      exact hkeys.insert addr _

theorem remove_messages_keys {db : DurableStorageRead K M E} {key : M → K} {inter : Finset K}
    {addr : A} {messages : Finset K}
    (h : remove_messages db key inter state addr messages = .ok state')
    (hkeys : state.KeysAgree) : state'.KeysAgree := by
  simp only [remove_messages] at h
  split at h
  · cases h
    exact hkeys
  · split at h
    · cases h
    · next entry hentry =>
      split at h
      · cases h
      · split at h
        · split at h
          · cases h
            exact hkeys.erase addr
          · cases h
            exact hkeys.replace (Iterate.mem_of_lookup_eq_some hentry) _
        · cases h

omit [DecidableEq K] in
theorem remove_accounts_keys (addrs : List A) (hkeys : state.KeysAgree) :
    (addrs.foldl remove_account state).KeysAgree :=
  Iterate.foldl_invariant ThreadMessageQueueState.KeysAgree
    (fun addr _ _ hkeys => hkeys.erase addr) hkeys

end from_maps

open from_maps in
/-- A successful application of a diff to a queue whose keys agree gives a valid queue. -/
theorem ThreadMessageQueueStateDiff.from_maps_valid {A K M E : Type} [LinearOrder A]
    [DecidableEq K] {key : M → K} {val : ThreadMessageQueueStateDiff A K M E}
    {state' : ThreadMessageQueueState A K M} (h : val.from_maps key = .ok state')
    (hkeys : val.initial_state.KeysAgree) : state'.Valid := by
  simp only [ThreadMessageQueueStateDiff.from_maps] at h
  obtain ⟨added, hadded, h⟩ := Iterate.except_bind_eq_ok.mp h
  obtain ⟨produced, hproduced, h⟩ := Iterate.except_bind_eq_ok.mp h
  obtain ⟨consumed, hconsumed, h⟩ := Iterate.except_bind_eq_ok.mp h
  cases h
  have hadded_keys := Iterate.foldlM_except_invariant ThreadMessageQueueState.KeysAgree
    (fun _ _ _ _ hstep => add_account_keys hstep) hadded hkeys
  have hproduced_keys := Iterate.foldlM_except_invariant ThreadMessageQueueState.KeysAgree
    (fun _ _ _ _ hstep => add_messages_keys hstep) hproduced hadded_keys
  have hconsumed_keys := Iterate.foldlM_except_invariant ThreadMessageQueueState.KeysAgree
    (fun _ _ _ _ hstep => remove_messages_keys hstep) hconsumed hproduced_keys
  exact (remove_accounts_keys val.removed_accounts hconsumed_keys).valid_wrap _

theorem from_maps.foldl_remove_account_messages {A K M : Type} [LinearOrder A] :
    ∀ (removed_accounts : List A) (state : ThreadMessageQueueState A K M),
      (removed_accounts.foldl from_maps.remove_account state).messages =
        removed_accounts.foldl (fun messages a => messages.erase a) state.messages
  | [], _ => rfl
  | _ :: removed_accounts, _ => from_maps.foldl_remove_account_messages removed_accounts _

/-- A diff that only removes accounts succeeds, and leaves every other inbox as it was. -/
theorem ThreadMessageQueueStateDiff.from_maps_remove_accounts {A K M E : Type} [LinearOrder A]
    [DecidableEq K] (key : M → K) (initial_state : ThreadMessageQueueState A K M)
    (removed_accounts : List A) (db : DurableStorageRead K M E) :
    ∃ state, (⟨initial_state, ∅, removed_accounts, ∅, ∅, db⟩ :
        ThreadMessageQueueStateDiff A K M E).from_maps key = .ok state ∧
      ∀ a, state.messages.lookup a =
        if a ∈ removed_accounts then none else initial_state.messages.lookup a := by
  refine ⟨_, rfl, fun a => ?_⟩
  simp only [from_maps.foldl_remove_account_messages]
  exact Iterate.lookup_foldl_erase removed_accounts initial_state.messages a

/-- One account whose stored range is the single message `1`, in a store whose chain goes on
    past it to message `2`, with message `3` in its tail; the diff consumes `1` and `3`. -/
def consume_past_end_diff : ThreadMessageQueueStateDiff Nat Nat Nat LoadErr where
  initial_state := ⟨(∅ : AList _).insert 0 ⟨some (1, 1), [(3, 3)]⟩, OrderSet.new.insert 0, 0⟩
  consumed_messages := (∅ : AList _).insert 0 {1, 3}
  removed_accounts := []
  added_accounts := ∅
  produced_messages := ∅
  db := chain_storage id two_message_chain

theorem from_maps_keeps_consumed_account :
    LinkedChain.Linked id two_message_chain ∧
      MessagesRange.messages id two_message_chain ⟨some (1, 1), [(3, 3)]⟩ = some [1, 3] ∧
      (consume_past_end_diff.from_maps id).map
          (fun state => (state.messages.lookup 0, state.order_set.toList)) =
        .ok (some ⟨some (2, 1), []⟩, [0]) ∧
      MessagesRange.messages id two_message_chain ⟨some (2, 1), ([] : List (Nat × Nat))⟩ = none :=
  ⟨two_message_chain_linked, rfl, rfl, rfl⟩

end ackinacki.thread_message_queue
