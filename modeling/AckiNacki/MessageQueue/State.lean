import Mathlib.Data.List.AList
import Mathlib.Data.List.Rotate
import Mathlib.Data.List.Sort
import AckiNacki.Inbox.Iterator

namespace ackinacki.thread_message_queue

open ackinacki.account_inbox

/-- `order_set::OrderSet`, an `indexset::BTreeSet` of accounts, kept as the strictly increasing
    list of its elements. -/
structure OrderSet (A : Type) [LinearOrder A] where
  toList : List A
  sorted : toList.Pairwise (· < ·)

namespace OrderSet

variable {A : Type} [LinearOrder A]

def new : OrderSet A := ⟨[], List.Pairwise.nil⟩

def len (self : OrderSet A) : Nat := self.toList.length

def get_index (self : OrderSet A) (index : Nat) : Option A := self.toList[index]?

def contains (self : OrderSet A) (account_address : A) : Bool :=
  self.toList.contains account_address

/-- Inserting a new element into a strictly increasing list keeps it strictly increasing. -/
theorem pairwise_lt_orderedInsert {l : List A} (hl : l.Pairwise (· < ·)) {a : A} (ha : a ∉ l) :
    (l.orderedInsert (· ≤ ·) a).Pairwise (· < ·) := by
  have hle : (l.orderedInsert (· ≤ ·) a).Pairwise (· ≤ ·) :=
    (hl.imp le_of_lt).orderedInsert a l
  have hnodup : (l.orderedInsert (· ≤ ·) a).Nodup :=
    (List.perm_orderedInsert _ a l).nodup_iff.mpr (List.nodup_cons.mpr ⟨ha, hl.imp ne_of_lt⟩)
  exact (hle.and hnodup).imp fun h => lt_of_le_of_ne h.1 h.2

/-- `OrderSet::insert`: a set insertion, which leaves the set as it is when the account is
    already in it. -/
def insert (self : OrderSet A) (account_address : A) : OrderSet A :=
  if h : account_address ∈ self.toList then self
  else ⟨self.toList.orderedInsert (· ≤ ·) account_address, pairwise_lt_orderedInsert self.sorted h⟩

def remove (self : OrderSet A) (account_address : A) : OrderSet A :=
  ⟨self.toList.erase account_address, self.sorted.sublist List.erase_sublist⟩

theorem nodup (self : OrderSet A) : self.toList.Nodup := self.sorted.imp ne_of_lt

@[simp]
theorem contains_iff (self : OrderSet A) (a : A) : self.contains a = true ↔ a ∈ self.toList := by
  simp [contains]

@[simp]
theorem mem_insert (self : OrderSet A) (a b : A) :
    a ∈ (self.insert b).toList ↔ a = b ∨ a ∈ self.toList := by
  unfold insert
  split
  · constructor
    · exact Or.inr
    · rintro (rfl | h) <;> assumption
  · simp [List.mem_orderedInsert]

@[simp]
theorem mem_remove (self : OrderSet A) (a b : A) :
    a ∈ (self.remove b).toList ↔ a ≠ b ∧ a ∈ self.toList :=
  self.nodup.mem_erase_iff

theorem insert_of_mem {self : OrderSet A} {a : A} (h : a ∈ self.toList) : self.insert a = self := by
  simp [insert, h]

/-- Checking `contains` before `insert`, as the callers do, inserts all the same. -/
@[simp]
theorem insert_unless_contains (self : OrderSet A) (a : A) :
    (if !self.contains a then self.insert a else self) = self.insert a := by
  split
  · rfl
  · next h =>
    rw [insert_of_mem]
    simpa using h

end OrderSet

/-- `ThreadMessageQueueState`. Its `messages` map is a `BTreeMap` in the source; an association
    list with distinct keys stands for it. -/
structure ThreadMessageQueueState (A K M : Type) [LinearOrder A] where
  messages : AList (fun _ : A => MessagesRange K M)
  order_set : OrderSet A
  cursor : Nat

namespace ThreadMessageQueueState

variable {A K M : Type} [LinearOrder A]

def empty : ThreadMessageQueueState A K M := ⟨∅, OrderSet.new, 0⟩

def account_inbox (self : ThreadMessageQueueState A K M) (account_address : A) :
    Option (MessagesRange K M) :=
  self.messages.lookup account_address

/-- The ordered accounts are exactly the accounts with an inbox. -/
def KeysAgree (state : ThreadMessageQueueState A K M) : Prop :=
  ∀ a, a ∈ state.order_set.toList ↔ a ∈ state.messages

/-- The queue invariant: the ordered accounts are exactly the accounts with an inbox, and the
    cursor points at one of them, or is zero when there are none. -/
structure Valid (state : ThreadMessageQueueState A K M) : Prop where
  order_set_keys : state.KeysAgree
  cursor_lt : state.cursor < state.messages.keys.length ∨
    (state.messages.keys = [] ∧ state.cursor = 0)

/-- Under the invariant `order_set` lists the accounts of `messages` once each, so the two have
    the same size. -/
theorem Valid.perm_keys {self : ThreadMessageQueueState A K M} (hvalid : self.Valid) :
    self.order_set.toList.Perm self.messages.keys := by
  rw [List.perm_ext_iff_of_nodup self.order_set.nodup self.messages.keys_nodup]
  intro a
  rw [hvalid.order_set_keys, AList.mem_keys]

/-- The empty queue is valid. -/
theorem empty_valid : (empty : ThreadMessageQueueState A K M).Valid where
  order_set_keys := by simp [KeysAgree, empty, OrderSet.new, AList.notMem_empty]
  cursor_lt := by simp [empty]

section KeysAgree

variable {state : ThreadMessageQueueState A K M}

/-- Giving an account an inbox and ordering it keeps the keys in agreement. -/
theorem KeysAgree.insert (hkeys : state.KeysAgree) (a : A) (inbox : MessagesRange K M) :
    KeysAgree { state with
      messages := state.messages.insert a inbox
      order_set := state.order_set.insert a } := by
  intro b
  simp only [OrderSet.mem_insert, AList.mem_insert, hkeys b]

/-- Replacing the inbox of an account that has one keeps the keys in agreement. -/
theorem KeysAgree.replace (hkeys : state.KeysAgree) {a : A} (ha : a ∈ state.messages)
    (inbox : MessagesRange K M) :
    KeysAgree { state with messages := state.messages.insert a inbox } := by
  intro b
  simp only [AList.mem_insert, hkeys b]
  constructor
  · exact Or.inr
  · rintro (rfl | hb) <;> assumption

/-- Dropping an account from both the inboxes and the order keeps the keys in agreement. -/
theorem KeysAgree.erase (hkeys : state.KeysAgree) (a : A) :
    KeysAgree { state with
      messages := state.messages.erase a
      order_set := state.order_set.remove a } := by
  intro b
  simp only [OrderSet.mem_remove, AList.mem_erase, hkeys b]

/-- Keys in agreement and a cursor reduced modulo the number of accounts make a valid queue. -/
theorem KeysAgree.valid_wrap (hkeys : state.KeysAgree) (cursor : Nat) :
    Valid { state with
      cursor := if !state.messages.keys.isEmpty then cursor % state.messages.keys.length
        else 0 } := by
  refine ⟨hkeys, ?_⟩
  cases h : state.messages.keys with
  | nil => simp
  | cons a rest =>
    left
    simp only [List.isEmpty_cons, Bool.not_false, if_true, List.length_cons]
    exact Nat.mod_lt _ (Nat.succ_pos _)

end KeysAgree

end ThreadMessageQueueState

/-- `account_messages_iterator::ThreadMessageQueueIterator`: the queue it walks and how many
    accounts it has visited. The store it hands to every range iterator is left out, since a
    `MessagesRangeIterator` here takes the store as an argument. -/
structure ThreadMessageQueueIterator (A K M : Type) [LinearOrder A] where
  state : ThreadMessageQueueState A K M
  offset : Nat

namespace ThreadMessageQueueIterator

variable {A K M : Type} [LinearOrder A]

/-- `Iterator::next`: the inbox range of the account `offset` places after the cursor,
    cyclically; `none` once every account has been visited, or when an account has no range. -/
def next (self : ThreadMessageQueueIterator A K M) :
    Option (MessagesRangeIterator K M) × ThreadMessageQueueIterator A K M :=
  if self.offset ≥ self.state.order_set.len then (none, self)
  else
    let next_index := (self.state.cursor + self.offset) % self.state.order_set.len
    match self.state.order_set.get_index next_index with
    | none => (none, self)
    | some next_account =>
      match self.state.messages.lookup next_account with
      | none => (none, self)
      | some range =>
        (some (MessagesRangeIterator.new range), { self with offset := self.offset + 1 })

/-- The accounts an iterator still has to visit, in the order it visits them. -/
def accounts (self : ThreadMessageQueueIterator A K M) : List A :=
  (self.state.order_set.toList.rotate self.state.cursor).drop self.offset

/-- The inbox ranges an iterator still has to yield: the ranges of its remaining accounts, when
    each of them has one. -/
def ranges (self : ThreadMessageQueueIterator A K M) : Option (List (MessagesRange K M)) :=
  self.accounts.mapM fun a => self.state.messages.lookup a

/-- One step of the iterator yields the range of the first remaining account. -/
theorem next_cons {self : ThreadMessageQueueIterator A K M} {a : A} {rest : List A}
    {range : MessagesRange K M} (haccounts : self.accounts = a :: rest)
    (hrange : self.state.messages.lookup a = some range) :
    self.next = (some (MessagesRangeIterator.new range), { self with offset := self.offset + 1 }) ∧
      ({ self with offset := self.offset + 1 } : ThreadMessageQueueIterator A K M).accounts =
        rest := by
  have hoffset : self.offset < self.state.order_set.len := by
    have hlength := congrArg List.length haccounts
    simp only [accounts, List.length_drop, List.length_rotate, List.length_cons] at hlength
    simp only [OrderSet.len]
    omega
  have hget : (self.state.order_set.toList.rotate self.state.cursor)[self.offset]? = some a := by
    rw [← List.head?_drop, ← accounts, haccounts, List.head?_cons]
  rw [List.getElem?_rotate (by simpa [OrderSet.len] using hoffset), Nat.add_comm] at hget
  have hindex : self.state.order_set.get_index
      ((self.state.cursor + self.offset) % self.state.order_set.len) = some a := hget
  refine ⟨?_, ?_⟩
  · simp only [next]
    rw [if_neg (Nat.not_le.mpr hoffset)]
    simp only [hindex, hrange]
  · simp only [accounts, ← List.drop_drop]
    rw [← accounts, haccounts, List.drop_one, List.tail_cons]

/-- With no account left to visit the iterator stops and stays where it is. -/
theorem next_nil {self : ThreadMessageQueueIterator A K M} (haccounts : self.accounts = []) :
    self.next = (none, self) := by
  have hoffset : self.state.order_set.len ≤ self.offset := by
    have hlength := congrArg List.length haccounts
    simp only [accounts, List.length_drop, List.length_rotate, List.length_nil] at hlength
    simp only [OrderSet.len]
    omega
  simp [next, hoffset]

/-- `next` walks the list of remaining ranges. -/
theorem next_simulates :
    Iterate.Simulates (next (A := A) (K := K) (M := M)) ranges
      (fun it => some it.remaining) where
  step := by
    intro self range rest hranges
    obtain ⟨a, accounts_rest, haccounts⟩ : ∃ a rest, self.accounts = a :: rest := by
      cases h : self.accounts with
      | nil => simp [ranges, h] at hranges
      | cons a rest => exact ⟨a, rest, rfl⟩
    rw [ranges, haccounts] at hranges
    obtain ⟨b, bs, hb, hbs, hrange⟩ := Iterate.mapM_cons_eq_some.mp hranges
    obtain ⟨rfl, rfl⟩ := List.cons.inj hrange
    obtain ⟨hnext, hrest⟩ := next_cons haccounts hb
    exact ⟨_, _, hnext, rfl, by simpa [ranges, hrest] using hbs⟩
  done := by
    intro self hranges
    apply next_nil
    cases h : self.accounts with
    | nil => rfl
    | cons a rest =>
      simp only [ranges, h, Iterate.mapM_cons_eq_some] at hranges
      obtain ⟨_, _, _, _, hnil⟩ := hranges
      cases hnil

end ThreadMessageQueueIterator

namespace ThreadMessageQueueState

variable {A K M : Type} [LinearOrder A] {self : ThreadMessageQueueState A K M}

/-- `AccountMessagesIterator::iter`: an iterator over a copy of the queue, from the cursor. -/
def iter (self : ThreadMessageQueueState A K M) : ThreadMessageQueueIterator A K M := ⟨self, 0⟩

/-- The accounts a fresh iterator visits: `order_set` rotated to the cursor. -/
theorem iter_accounts (self : ThreadMessageQueueState A K M) :
    self.iter.accounts = self.order_set.toList.rotate self.cursor := by
  simp [iter, ThreadMessageQueueIterator.accounts]

/-- Under the invariant the accounts a fresh iterator visits are the accounts with an inbox,
    each once. -/
theorem Valid.rotate_perm_keys (hvalid : self.Valid) :
    (self.order_set.toList.rotate self.cursor).Perm self.messages.keys :=
  (List.rotate_perm _ _).trans hvalid.perm_keys

/-- Under the invariant every account a fresh iterator visits has an inbox range. -/
theorem Valid.exists_iter_ranges (hvalid : self.Valid) : ∃ ranges, self.iter.ranges = some ranges := by
  apply Iterate.exists_mapM_eq_some
  intro a ha
  rw [iter_accounts, List.mem_rotate, hvalid.order_set_keys] at ha
  exact AList.lookup_isSome.mpr ha

/-- Run lemma: from a valid queue, `n` calls of `next` yield the inbox ranges of the first `n`
    accounts of `order_set` rotated to the cursor, and stop only when all are visited. -/
theorem Valid.iter_take_next (hvalid : self.Valid) (n : Nat) :
    (Iterate.take_next ThreadMessageQueueIterator.next n self.iter).1.map
        (fun it => some it.remaining) =
      ((self.order_set.toList.rotate self.cursor).take n).map fun a => self.messages.lookup a := by
  obtain ⟨ranges, hranges⟩ := hvalid.exists_iter_ranges
  have hlookup : (self.order_set.toList.rotate self.cursor).map (fun a => self.messages.lookup a) =
      ranges.map some := Iterate.map_eq_of_mapM_eq_some hranges
  rw [(ThreadMessageQueueIterator.next_simulates.take_next_spec n _ _ hranges).1, List.map_take,
    List.map_take, hlookup]

end ThreadMessageQueueState

end ackinacki.thread_message_queue
