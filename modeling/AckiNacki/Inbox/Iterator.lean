import AckiNacki.Inbox.Range
import AckiNacki.Lib.Iterate

namespace ackinacki.account_inbox

/-- `iter::iterator::IteratorError`. -/
inductive IteratorError (E K : Type) where
  | LoadMessageError (e : E)
  | LoadNextRefError (e : E)
  | BrokenRange (missing_end actual_last : K)
  deriving DecidableEq, Repr

/-- `MessagesRangeIterator`: the part of a range not consumed yet. The store the iterator
    borrows never changes, so its methods take it as an argument. -/
structure MessagesRangeIterator (K M : Type) where
  remaining : MessagesRange K M
  deriving DecidableEq, Repr

namespace consume

variable {K M E : Type} [DecidableEq K]

/-- `consume::from_storage`: load the message at `msg_ref`; the range ends there when
    `msg_ref` is its end, and otherwise goes on from the next key of the chain. -/
def from_storage (db : DurableStorageRead K M E) (msg_ref stop : K) :
    Except (IteratorError E K) (M × Option (K × K)) :=
  match db.load_message msg_ref with
  | .error e => .error (.LoadMessageError e)
  | .ok message =>
    if msg_ref = stop then .ok (message, none)
    else
      match db.next msg_ref with
      | .error e => .error (.LoadNextRefError e)
      | .ok none => .error (.BrokenRange stop msg_ref)
      | .ok (some next_message_key) => .ok (message, some (next_message_key, stop))

/-- `consume::range_from_storage`: fetch up to `limit` messages from `msg_ref` on and find the
    range's end among their keys. -/
def range_from_storage (db : DurableStorageRead K M E) (key : M → K) (msg_ref stop : K)
    (limit : Nat) : Except (IteratorError E K) (List M × Option (K × K)) :=
  match db.remaining_messages msg_ref limit with
  | .error e => .error (.LoadMessageError e)
  | .ok messages =>
    let message_refs := messages.map key
    match message_refs.findIdx? (· == stop) with
    | some pos =>
      if pos = message_refs.length - 1 then .ok (messages, none)
      else
        match message_refs[pos + 1]? with
        | some next_key => .ok (messages.take (pos + 1), some (next_key, stop))
        | none => .ok (messages, none)
    | none =>
      match message_refs.getLast? with
      | some last_key =>
        match db.next last_key with
        | .error e => .error (.LoadNextRefError e)
        | .ok (some next_key) => .ok (messages, some (next_key, stop))
        | .ok none => .error (.BrokenRange stop last_key)
      | none => .ok ([], none)

end consume

namespace MessagesRangeIterator

variable {K M E : Type} [DecidableEq K]

def new (range : MessagesRange K M) : MessagesRangeIterator K M := ⟨range⟩

/-- `Iterator::next`: the next message with its key, `none` once the range is consumed. A
    failed read returns the error and leaves the iterator as it was. -/
def next (db : DurableStorageRead K M E) (self : MessagesRangeIterator K M) :
    Option (Except (IteratorError E K) (M × K)) × MessagesRangeIterator K M :=
  match self.remaining.compacted_history with
  | some (msg_ref, stop) =>
    match consume.from_storage db msg_ref stop with
    | .ok (message, remains) =>
      (some (.ok (message, msg_ref)), ⟨{ self.remaining with compacted_history := remains }⟩)
    | .error e => (some (.error e), self)
  | none =>
    match self.remaining.tail_sequence with
    | [] => (none, self)
    | (k, message) :: rest => (some (.ok (message, k)), ⟨{ self.remaining with tail_sequence := rest }⟩)

/-- The tail part of `next_range`: after the stored `messages`, take from the tail what is
    left of `limit`. -/
def take_tail (self : MessagesRangeIterator K M) (limit : Nat) (messages : List M) :
    Except (IteratorError E K) (List M) × MessagesRangeIterator K M :=
  let remaining_limit := min (limit - messages.length) self.remaining.tail_sequence.length
  (.ok (messages ++ (self.remaining.tail_sequence.take remaining_limit).map Prod.snd),
    ⟨{ self.remaining with tail_sequence := self.remaining.tail_sequence.drop remaining_limit }⟩)

omit [DecidableEq K] in
/-- What `take_tail` returns: the stored messages, then the tail's messages up to the limit. -/
theorem take_tail_fst (self : MessagesRangeIterator K M) (limit : Nat) (messages : List M) :
    (take_tail (E := E) self limit messages).1 =
      .ok (messages ++ (self.remaining.tail_sequence.map Prod.snd).take (limit - messages.length)) := by
  simp only [take_tail, List.map_take]
  rw [List.take_eq_take_min (i := min _ _), List.take_eq_take_min (i := limit - _)]
  simp only [List.length_map, Nat.min_assoc, Nat.min_self]

omit [DecidableEq K] in
/-- What `take_tail` leaves: the same stored part, and the tail without what it returned. -/
theorem take_tail_snd (self : MessagesRangeIterator K M) (limit : Nat) (messages : List M) :
    (take_tail (E := E) self limit messages).2.remaining.compacted_history =
        self.remaining.compacted_history ∧
      (take_tail (E := E) self limit messages).2.remaining.tail_sequence.map Prod.snd =
        (self.remaining.tail_sequence.map Prod.snd).drop (limit - messages.length) := by
  refine ⟨rfl, ?_⟩
  simp only [take_tail, List.map_drop]
  rw [List.drop_eq_drop_min (i := min _ _), List.drop_eq_drop_min (i := limit - _)]
  simp only [List.length_map, Nat.min_assoc, Nat.min_self]

/-- `MessagesRangeIterator::next_range`: up to `limit` messages in one call. -/
def next_range (db : DurableStorageRead K M E) (key : M → K) (self : MessagesRangeIterator K M)
    (limit : Nat) : Except (IteratorError E K) (List M) × MessagesRangeIterator K M :=
  match self.remaining.compacted_history with
  | some (msg_ref, stop) =>
    match consume.range_from_storage db key msg_ref stop limit with
    | .error e => (.error e, self)
    | .ok (messages, remains) =>
      take_tail ⟨{ self.remaining with compacted_history := remains }⟩ limit messages
  | none => take_tail self limit []

end MessagesRangeIterator

section ChainStorage

variable {K M : Type} [DecidableEq K] {key : M → K} {chain : K → List M}

/-- At the range's end `from_storage` returns the message and closes the range. -/
theorem from_storage_end {k : K} {m : M} {rest : List M} (hchain : chain k = m :: rest) :
    consume.from_storage (chain_storage key chain) k k = .ok (m, none) := by
  simp [consume.from_storage, chain_storage_load_message_cons hchain]

/-- Before the range's end `from_storage` returns the message and the range from the next
    key of the chain. -/
theorem from_storage_link {k stop : K} {m m' : M} {rest : List M}
    (hchain : chain k = m :: m' :: rest) (hne : k ≠ stop) :
    consume.from_storage (chain_storage key chain) k stop = .ok (m, some (key m', stop)) := by
  simp [consume.from_storage, chain_storage_load_message_cons hchain, hne, hchain]

/-- The range's end is found in a fetched batch exactly when its index is below the limit. -/
theorem findIdx?_take_key (hlinked : LinkedChain.Linked key chain) (k : K) {i : Nat}
    (hi : i < (chain k).length) (limit : Nat) :
    (((chain k).take limit).map key).findIdx? (· == key (chain k)[i]) =
      if i < limit then some i else none := by
  have hfind := hlinked.findIdx?_key_eq k hi
  rw [List.findIdx?_map, List.findIdx?_take]
  simp only [Function.comp_def, hfind, Option.bind_some]
  split <;> simp [Option.guard, *]

/-- The end of the range is the last message of the batch: the whole batch is returned and the
    stored part of the range is consumed. -/
theorem range_from_storage_end_last (hlinked : LinkedChain.Linked key chain) (k : K) {i : Nat}
    (hi : i < (chain k).length) {limit : Nat} (hlast : i + 1 = min limit (chain k).length) :
    consume.range_from_storage (chain_storage key chain) key k (key (chain k)[i]) limit =
      .ok ((chain k).take (i + 1), none) := by
  have hfound : i < limit := by omega
  have hbatch : (chain k).take limit = (chain k).take (i + 1) := by
    rw [List.take_eq_take_iff]
    omega
  simp only [consume.range_from_storage, chain_storage_remaining_messages,
    findIdx?_take_key hlinked k hi limit, if_pos hfound, List.length_map, List.length_take]
  rw [if_pos (by omega), hbatch]

/-- The end of the range lies inside the batch with more messages fetched after it: the batch
    is cut after the end, and the range goes on from the key of the next fetched message. -/
theorem range_from_storage_end_inside (hlinked : LinkedChain.Linked key chain) (k : K) {i : Nat}
    (hi : i < (chain k).length) {limit : Nat} (hinside : i + 1 < min limit (chain k).length) :
    consume.range_from_storage (chain_storage key chain) key k (key (chain k)[i]) limit =
      .ok ((chain k).take (i + 1), some (key (chain k)[i + 1], key (chain k)[i])) := by
  have hfound : i < limit := by omega
  have hnext : (((chain k).take limit).map key)[i + 1]? = some (key (chain k)[i + 1]) := by
    simp [hinside]
  simp only [consume.range_from_storage, chain_storage_remaining_messages,
    findIdx?_take_key hlinked k hi limit, if_pos hfound, List.length_map, List.length_take]
  rw [if_neg (by omega), hnext, List.take_take, Nat.min_eq_left (by omega)]

/-- The end of the range lies beyond the batch: the whole batch is returned, and the range goes
    on from the key that follows the batch in the chain. -/
theorem range_from_storage_end_ahead (hlinked : LinkedChain.Linked key chain) (k : K) {i : Nat}
    (hi : i < (chain k).length) {limit : Nat} (hlimit : 0 < limit) (hahead : limit ≤ i) :
    consume.range_from_storage (chain_storage key chain) key k (key (chain k)[i]) limit =
      .ok ((chain k).take limit, some (key (chain k)[limit], key (chain k)[i])) := by
  have hnotfound : ¬ i < limit := by omega
  have hlength : min limit (chain k).length = limit := Nat.min_eq_left (by omega)
  have hlast : (((chain k).take limit).map key).getLast? = some (key (chain k)[limit - 1]) := by
    rw [List.getLast?_eq_getElem?]
    simp only [List.length_map, List.length_take, hlength, List.getElem?_map, List.getElem?_take]
    rw [if_pos (by omega), List.getElem?_eq_getElem (by omega), Option.map_some]
  have hsuffix := hlinked.chain_key_getElem k (limit - 1) (by omega)
  have hfollow : ((chain (key (chain k)[limit - 1])).drop 1).head? = some (chain k)[limit] := by
    rw [hsuffix, List.drop_drop, List.head?_drop]
    simp [show limit - 1 + 1 = limit by omega]
  simp only [consume.range_from_storage, chain_storage_remaining_messages,
    findIdx?_take_key hlinked k hi limit, if_neg hnotfound, hlast, chain_storage_next, hfollow,
    Option.map_some]

end ChainStorage

end ackinacki.account_inbox
