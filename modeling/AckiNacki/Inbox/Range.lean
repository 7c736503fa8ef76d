import AckiNacki.Lib.LinkedChain

namespace ackinacki.account_inbox

/-- `storage::LoadErr`. -/
inductive LoadErr where
  | NoState
  | DeserializationError
  deriving DecidableEq, Repr

/-- `storage::DurableStorageRead`: the three reads a range iterator makes of the store. -/
structure DurableStorageRead (K M E : Type) where
  load_message : K → Except E M
  next : K → Except E (Option K)
  remaining_messages : K → Nat → Except E (List M)

/-- `range::MessagesRange`. The compacted history is the pair `(start, end)` that
    `RangeInclusive::into_inner` returns. -/
structure MessagesRange (K M : Type) where
  compacted_history : Option (K × K)
  tail_sequence : List (K × M)
  deriving DecidableEq, Repr

namespace MessagesRange

variable {K M : Type}

def empty : MessagesRange K M := ⟨none, []⟩

def is_empty (self : MessagesRange K M) : Bool :=
  self.compacted_history.isNone && self.tail_sequence.isEmpty

def add_messages (self : MessagesRange K M) (messages : List (K × M)) : MessagesRange K M :=
  { self with tail_sequence := self.tail_sequence ++ messages }

def length (self : MessagesRange K M) : Nat := self.tail_sequence.length

end MessagesRange

section Chains

variable {K M : Type} (key : M → K) (chain : K → List M)

/-- The store read as linked chains of messages (`MessageDurableStorage`): `chain k` is the
    message keyed `k` followed by the rest of its account's chain, and `[]` when no message
    has key `k`. `remaining_messages` returns the first `limit` messages from `k` on. -/
def chain_storage : DurableStorageRead K M LoadErr where
  load_message k :=
    match chain k with
    | m :: _ => .ok m
    | [] => .error .NoState
  next k := .ok (((chain k).drop 1).head?.map key)
  remaining_messages k limit := .ok ((chain k).take limit)

/-- The messages a range stands for when read through the store: the stored segment from
    `start` to `end`, then the tail. `none` when the stored segment never reaches `end`. -/
def MessagesRange.messages [DecidableEq K] (self : MessagesRange K M) : Option (List M) :=
  match self.compacted_history with
  | none => some (self.tail_sequence.map Prod.snd)
  | some (start, stop) =>
    (LinkedChain.segment key chain start stop).map (· ++ self.tail_sequence.map Prod.snd)

variable {key chain}

@[simp] theorem chain_storage_load_message_cons {k : K} {m : M} {rest : List M}
    (hchain : chain k = m :: rest) : (chain_storage key chain).load_message k = .ok m := by
  simp [chain_storage, hchain]

@[simp] theorem chain_storage_next (k : K) :
    (chain_storage key chain).next k = .ok (((chain k).drop 1).head?.map key) := rfl

@[simp] theorem chain_storage_remaining_messages (k : K) (limit : Nat) :
    (chain_storage key chain).remaining_messages k limit = .ok ((chain k).take limit) := rfl

end Chains

end ackinacki.account_inbox
