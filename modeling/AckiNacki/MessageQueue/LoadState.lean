import AckiNacki.MessageQueue.Diff

namespace ackinacki.thread_message_queue

open ackinacki.account_inbox

def MAX_MESSAGES : Nat := 100

/-- The part of `MessageDurableStorage` that `load_state` reads: the inbox store, the row of a
    message, and the batch of an account's messages after a row. -/
structure MessageDurableStorage (A K M E : Type) where
  read : DurableStorageRead K M E
  get_rowid_by_hash : K → Except String (Option Int)
  next_simple : A → Int → Nat → Except String (List M × Option Int)

/-- How `load_state` fails: the error `?` passes on, a panic with its text, the mismatch panic
    with the two keys it prints, or the loop over batches running past its fuel. -/
inductive LoadStateError (K : Type) where
  | DbError (e : String)
  | Panic (message : String)
  | Mismatch (expected found : K)
  | OutOfFuel
  deriving DecidableEq, Repr

namespace load_queue

variable {A K M E : Type} [DecidableEq K]

/-- The first batch: while the range iterator still yields, each stored message must be the
    one the range yields; what comes after the range goes to the tail. -/
def first_batch (db : MessageDurableStorage A K M E) (key : M → K) :
    MessagesRangeIterator K M → List (K × M) → List M →
      Except (LoadStateError K) (List (K × M))
  | _, tail, [] => .ok tail
  | it, tail, db_message :: rest =>
    let message_id := key db_message
    match it.next db.read with
    | (some (.ok (_, k)), it) =>
      if k = message_id then first_batch db key it tail rest
      else .error (.Mismatch k message_id)
    | (_, it) => first_batch db key it (tail ++ [(message_id, db_message)]) rest

/-- The later batches, all appended to the tail, until the store returns an empty one. -/
def later_batches (db : MessageDurableStorage A K M E) (key : M → K) (account_address : A) :
    Nat → Int → List (K × M) → Except (LoadStateError K) (List (K × M))
  | 0, _, _ => .error .OutOfFuel
  | fuel + 1, db_cursor, tail =>
    match db.next_simple account_address db_cursor MAX_MESSAGES with
    | .error e => .error (.DbError e)
    | .ok (new_messages, _) =>
      if new_messages.isEmpty then .ok tail
      else
        later_batches db key account_address fuel (db_cursor + MAX_MESSAGES)
          (tail ++ new_messages.map fun db_message => (key db_message, db_message))

/-- The body of `load_state`'s loop for one account: its range with the tail read from the
    store. -/
def load_account (db : MessageDurableStorage A K M E) (key : M → K) (fuel : Nat)
    (account_address : A) (range : MessagesRange K M) :
    Except (LoadStateError K) (MessagesRange K M) :=
  match (MessagesRangeIterator.new range).next db.read with
  | (some (.ok (_, start_message_id)), it) =>
    match db.get_rowid_by_hash start_message_id with
    | .ok (some db_cursor) =>
      match db.next_simple account_address db_cursor MAX_MESSAGES with
      | .error e => .error (.DbError e)
      | .ok (batch, _) =>
        match first_batch db key it [] batch with
        | .error e => .error e
        | .ok tail =>
          match later_batches db key account_address fuel (db_cursor + MAX_MESSAGES) tail with
          | .error e => .error e
          | .ok tail => .ok { range with tail_sequence := tail }
    | _ => .error (.Panic "Start of the range not found in database")
  | _ => .error (.Panic "Empty range detected")

/-- One turn of `load_state`'s loop: the account's range with its new tail goes into the
    inbox map, and the account into the order set. -/
def load_entry [LinearOrder A] (db : MessageDurableStorage A K M E) (key : M → K) (fuel : Nat)
    (state : ThreadMessageQueueState A K M) (entry : (_ : A) × MessagesRange K M) :
    Except (LoadStateError K) (ThreadMessageQueueState A K M) :=
  match load_account db key fuel entry.1 entry.2 with
  | .error e => .error e
  | .ok new_range =>
    .ok { state with
      messages := state.messages.insert entry.1 new_range
      order_set := state.order_set.insert entry.1 }

theorem load_entry_eq_ok [LinearOrder A] {db : MessageDurableStorage A K M E} {key : M → K}
    {fuel : Nat} {state state' : ThreadMessageQueueState A K M}
    {entry : (_ : A) × MessagesRange K M} (h : load_entry db key fuel state entry = .ok state') :
    ∃ new_range, state' = { state with
      messages := state.messages.insert entry.1 new_range
      order_set := state.order_set.insert entry.1 } := by
  simp only [load_entry] at h
  split at h
  · cases h
  · next new_range _ =>
    cases h
    exact ⟨new_range, rfl⟩

end load_queue

namespace ThreadMessageQueueState

variable {A K M E : Type} [LinearOrder A] [DecidableEq K]

open load_queue in
/-- `ThreadMessageQueueState::load_state`, with `fuel` bounding each account's loop over
    batches. The new inbox map and order set are built up inside a queue whose cursor is
    already the final `0`. -/
def load_state (db : MessageDurableStorage A K M E) (key : M → K) (fuel : Nat)
    (state_messages : AList (fun _ : A => MessagesRange K M)) :
    Except (LoadStateError K) (ThreadMessageQueueState A K M) :=
  state_messages.entries.foldlM (load_entry db key fuel) empty

open load_queue in
/-- A loaded queue is valid. -/
theorem load_state_valid {db : MessageDurableStorage A K M E} {key : M → K} {fuel : Nat}
    {state_messages : AList (fun _ : A => MessagesRange K M)} {state : ThreadMessageQueueState A K M}
    (h : load_state db key fuel state_messages = .ok state) : state.Valid := by
  have hkeys : state.KeysAgree := Iterate.foldlM_except_invariant KeysAgree
    (fun _ _ _ _ hstep hkeys => by
      obtain ⟨new_range, rfl⟩ := load_entry_eq_ok hstep
      exact hkeys.insert _ new_range)
    h empty_valid.order_set_keys
  have hcursor : state.cursor = 0 := Iterate.foldlM_except_invariant (fun s => s.cursor = 0)
    (fun _ _ _ _ hstep hcursor => by
      obtain ⟨new_range, rfl⟩ := load_entry_eq_ok hstep
      exact hcursor)
    h rfl
  refine ⟨hkeys, ?_⟩
  cases hlength : state.messages.keys with
  | nil => exact Or.inr ⟨rfl, hcursor⟩
  | cons a rest =>
    left
    simp [hcursor]

end ThreadMessageQueueState

open ThreadMessageQueueState in
theorem queue_valid_and_iter_round_robin {A K M E : Type} [LinearOrder A] [DecidableEq K] :
    (empty : ThreadMessageQueueState A K M).Valid ∧
      (∀ (db : MessageDurableStorage A K M E) (key : M → K) (fuel : Nat)
          (state_messages : AList (fun _ : A => MessagesRange K M)) state,
        load_state db key fuel state_messages = .ok state → state.Valid) ∧
      (∀ (key : M → K) (val : ThreadMessageQueueStateDiff A K M E) state,
        val.initial_state.Valid → val.from_maps key = .ok state → state.Valid) ∧
      (∀ state : ThreadMessageQueueState A K M, state.Valid →
        (state.order_set.toList.rotate state.cursor).Perm state.messages.keys ∧
          ∀ n, (Iterate.take_next ThreadMessageQueueIterator.next n state.iter).1.map
              (fun it => some it.remaining) =
            ((state.order_set.toList.rotate state.cursor).take n).map
              fun a => state.messages.lookup a) := by
  refine ⟨empty_valid, ?_, ?_, ?_⟩
  · intro db key fuel state_messages state h
    exact load_state_valid h
  · intro key val state hvalid h
    exact ThreadMessageQueueStateDiff.from_maps_valid h hvalid.order_set_keys
  · intro state hvalid
    exact ⟨hvalid.rotate_perm_keys, hvalid.iter_take_next⟩

end ackinacki.thread_message_queue
