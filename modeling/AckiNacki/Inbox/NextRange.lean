import AckiNacki.Inbox.Iterator

namespace ackinacki.account_inbox

variable {K M : Type} [DecidableEq K] {key : M → K} {chain : K → List M}

/-- The message of an item that `next` returns, when the read succeeded. -/
def item_message {E : Type} : Except (IteratorError E K) (M × K) → Option M
  | .ok (message, _) => some message
  | .error _ => none

variable (key chain) in
/-- The stored part of the range ends strictly inside the batch of `limit` messages that
    `next_range` fetches, with more messages of the chain fetched after the end. -/
def MessagesRange.EndsInsideBatch (self : MessagesRange K M) (limit : Nat) : Prop :=
  ∃ start i, ∃ hi : i < (chain start).length,
    self.compacted_history = some (start, key (chain start)[i]) ∧
      i + 1 < min limit (chain start).length

/-- A range read through the store is its stored segment, up to the end's index `i`, followed
    by the tail. -/
theorem messages_compacted {tail : List (K × M)} {start stop : K} {ms : List M}
    (hmsgs : MessagesRange.messages key chain ⟨some (start, stop), tail⟩ = some ms) :
    ∃ i, ∃ hi : i < (chain start).length, stop = key (chain start)[i] ∧
      ms = (chain start).take (i + 1) ++ tail.map Prod.snd := by
  simp only [MessagesRange.messages, Option.map_eq_some_iff] at hmsgs
  obtain ⟨seg, hseg, rfl⟩ := hmsgs
  obtain ⟨i, hi, hkey, rfl⟩ := LinkedChain.segment_eq_some hseg
  exact ⟨i, hi, hkey.symm, rfl⟩

/-- The first message of a list read as a prefix of a chain followed by a tail. -/
theorem cons_eq_take_append {l tail ms : List M} {m : M} {n : Nat} (hl : 0 < l.length)
    (h : m :: ms = l.take (n + 1) ++ tail) :
    m = l[0] ∧ ms = (l.take (n + 1)).drop 1 ++ tail := by
  obtain ⟨a, l', rfl⟩ := List.exists_cons_of_length_pos hl
  simp only [List.take_succ_cons, List.cons_append, List.cons.injEq] at h
  obtain ⟨rfl, rfl⟩ := h
  simp

/-- On a consumed range `next` returns `none` and keeps the iterator. -/
theorem MessagesRangeIterator.next_done {it : MessagesRangeIterator K M}
    (hmsgs : it.remaining.messages key chain = some []) :
    it.next (chain_storage key chain) = (none, it) := by
  obtain ⟨⟨compacted, tail⟩⟩ := it
  cases compacted with
  | none =>
    simp only [MessagesRange.messages, Option.some.injEq, List.map_eq_nil_iff] at hmsgs
    subst hmsgs
    rfl
  | some range =>
    obtain ⟨start, stop⟩ := range
    obtain ⟨i, hi, rfl, hms⟩ := messages_compacted hmsgs
    have hlength := congrArg List.length hms
    simp only [List.length_nil, List.length_append, List.length_take] at hlength
    omega

section Linked

variable (hlinked : LinkedChain.Linked key chain)
include hlinked

/-- One call of `next` returns the first message a range stands for and leaves a range that
    stands for the others. -/
theorem MessagesRangeIterator.next_spec {it : MessagesRangeIterator K M} {m : M} {ms : List M}
    (hmsgs : it.remaining.messages key chain = some (m :: ms)) :
    ∃ k it', it.next (chain_storage key chain) = (some (.ok (m, k)), it') ∧
      it'.remaining.messages key chain = some ms := by
  obtain ⟨⟨compacted, tail⟩⟩ := it
  cases compacted with
  | none =>
    simp only [MessagesRange.messages, Option.some.injEq] at hmsgs
    cases tail with
    | nil => simp at hmsgs
    | cons entry rest =>
      obtain ⟨k, m'⟩ := entry
      simp only [List.map_cons, List.cons.injEq] at hmsgs
      obtain ⟨rfl, rfl⟩ := hmsgs
      exact ⟨k, ⟨⟨none, rest⟩⟩, rfl, rfl⟩
  | some range =>
    obtain ⟨start, stop⟩ := range
    obtain ⟨i, hi, rfl, hms⟩ := messages_compacted hmsgs
    have hpos : 0 < (chain start).length := by omega
    obtain ⟨rfl, rfl⟩ := cons_eq_take_append hpos hms
    have hstart : key (chain start)[0] = start :=
      hlinked.head_key (List.cons_getElem_drop_succ (h := hpos)).symm
    cases i with
    | zero =>
      have hchain : chain start = (chain start)[0] :: (chain start).drop 1 :=
        (List.cons_getElem_drop_succ (h := hpos)).symm
      refine ⟨start, ⟨⟨none, tail⟩⟩, ?_, ?_⟩
      · simp only [MessagesRangeIterator.next, hstart, from_storage_end hchain]
      · simp [MessagesRange.messages, List.take_one, List.head?_eq_getElem?, hpos]
    | succ i =>
      have hchain : chain start =
          (chain start)[0] :: (chain start)[1] :: (chain start).drop 2 := by
        rw [List.cons_getElem_drop_succ, List.cons_getElem_drop_succ, List.drop_zero]
      have hne : start ≠ key (chain start)[i + 1] := by
        intro heq
        have h0 := hlinked.index_eq_of_key_eq start hpos hi (hstart.trans heq)
        omega
      refine ⟨start, ⟨⟨some (key (chain start)[1], key (chain start)[i + 1]), tail⟩⟩, ?_, ?_⟩
      · simp only [MessagesRangeIterator.next, from_storage_link hchain hne]
      · simp only [MessagesRange.messages,
          hlinked.segment_key_getElem start (j := 1) (by omega) hi, Option.map_some]

/-- `next` walks the messages a range stands for. -/
theorem MessagesRangeIterator.next_simulates :
    Iterate.Simulates (MessagesRangeIterator.next (chain_storage key chain))
      (fun it => it.remaining.messages key chain) item_message := by
  constructor
  · intro it m ms hmsgs
    obtain ⟨k, it', hnext, hrest⟩ := next_spec hlinked hmsgs
    exact ⟨.ok (m, k), it', hnext, rfl, hrest⟩
  · intro it hmsgs
    exact next_done hmsgs

/-- The batch that `range_from_storage` returns for a range whose end is at index `i < limit`
    of the chain: the segment up to the end. -/
theorem range_from_storage_found {start : K} {i : Nat} (hi : i < (chain start).length)
    {limit : Nat} (hfound : i < limit) :
    ∃ remains, consume.range_from_storage (chain_storage key chain) key start
      (key (chain start)[i]) limit = .ok ((chain start).take (i + 1), remains) := by
  rcases Nat.lt_or_eq_of_le (show i + 1 ≤ min limit (chain start).length by omega)
    with hinside | hlast
  · exact ⟨_, range_from_storage_end_inside hlinked start hi hinside⟩
  · exact ⟨none, range_from_storage_end_last hlinked start hi hlast⟩

/-- `next_range limit` returns the first `limit` messages a range stands for. -/
theorem MessagesRangeIterator.next_range_messages {it : MessagesRangeIterator K M}
    {ms : List M} (hmsgs : it.remaining.messages key chain = some ms) {limit : Nat}
    (hlimit : 0 < limit) :
    (it.next_range (chain_storage key chain) key limit).1 = .ok (ms.take limit) := by
  obtain ⟨⟨compacted, tail⟩⟩ := it
  cases compacted with
  | none =>
    simp only [MessagesRange.messages, Option.some.injEq] at hmsgs
    subst hmsgs
    simp [next_range, take_tail_fst]
  | some range =>
    obtain ⟨start, stop⟩ := range
    obtain ⟨i, hi, rfl, rfl⟩ := messages_compacted hmsgs
    rcases Nat.lt_or_ge i limit with hfound | hahead
    · obtain ⟨remains, hbatch⟩ := range_from_storage_found hlinked hi hfound
      have hseg : ((chain start).take (i + 1)).take limit = (chain start).take (i + 1) := by
        rw [List.take_take, Nat.min_eq_right (by omega)]
      have hlength : min (i + 1) (chain start).length = i + 1 := Nat.min_eq_left (by omega)
      simp only [next_range, hbatch, take_tail_fst, List.take_append, List.length_take, hseg,
        hlength]
    · have hseg : ((chain start).take (i + 1)).take limit = (chain start).take limit := by
        rw [List.take_take, Nat.min_eq_left (by omega)]
      have hlength : min limit (chain start).length = limit := Nat.min_eq_left (by omega)
      have hrest : limit - min (i + 1) (chain start).length = 0 := by omega
      simp only [next_range, range_from_storage_end_ahead hlinked start hi hlimit hahead,
        take_tail_fst, List.take_append, List.length_take, hseg, hlength, hrest, Nat.sub_self,
        List.take_zero]

/-- Outside the one shape where the batch is cut inside, the range `next_range limit` leaves
    stands for the messages after the first `limit`. -/
theorem MessagesRangeIterator.next_range_remaining {it : MessagesRangeIterator K M}
    {ms : List M} (hmsgs : it.remaining.messages key chain = some ms) {limit : Nat}
    (hlimit : 0 < limit) (hshape : ¬ it.remaining.EndsInsideBatch key chain limit) :
    (it.next_range (chain_storage key chain) key limit).2.remaining.messages key chain =
      some (ms.drop limit) := by
  obtain ⟨⟨compacted, tail⟩⟩ := it
  cases compacted with
  | none =>
    simp only [MessagesRange.messages, Option.some.injEq] at hmsgs
    subst hmsgs
    obtain ⟨hcompacted, htail⟩ := take_tail_snd (E := LoadErr) ⟨⟨none, tail⟩⟩ limit []
    simp only [next_range, MessagesRange.messages, hcompacted, htail, List.length_nil,
      Nat.sub_zero]
  | some range =>
    obtain ⟨start, stop⟩ := range
    obtain ⟨i, hi, rfl, rfl⟩ := messages_compacted hmsgs
    rcases Nat.lt_or_ge i limit with hfound | hahead
    · have hlast : i + 1 = min limit (chain start).length := by
        by_contra hne
        exact hshape ⟨start, i, hi, rfl, by omega⟩
      obtain ⟨hcompacted, htail⟩ := take_tail_snd (E := LoadErr) ⟨⟨none, tail⟩⟩ limit
        ((chain start).take (i + 1))
      have hdrop : ((chain start).take (i + 1)).drop limit = [] :=
        List.drop_eq_nil_of_le (by simp; omega)
      simp only [next_range, range_from_storage_end_last hlinked start hi hlast,
        MessagesRange.messages, hcompacted, htail, List.drop_append, hdrop, List.nil_append,
        List.length_take]
    · obtain ⟨hcompacted, htail⟩ := take_tail_snd (E := LoadErr)
        ⟨⟨some (key (chain start)[limit], key (chain start)[i]), tail⟩⟩ limit
        ((chain start).take limit)
      have hrest : limit - ((chain start).take limit).length = 0 := by simp; omega
      have hrest' : limit - ((chain start).take (i + 1)).length = 0 := by simp; omega
      simp only [next_range, range_from_storage_end_ahead hlinked start hi hlimit hahead,
        MessagesRange.messages, hcompacted, htail, hrest, List.drop_zero,
        hlinked.segment_key_getElem start hahead hi, Option.map_some, List.drop_append, hrest']

/-- When the batch is cut inside, the range `next_range limit` leaves keeps a stored part that
    starts after its own end, so it stands for no sequence of messages at all. -/
theorem MessagesRangeIterator.next_range_ends_inside {it : MessagesRangeIterator K M}
    {limit : Nat} (hshape : it.remaining.EndsInsideBatch key chain limit) :
    (it.next_range (chain_storage key chain) key limit).2.remaining.compacted_history ≠ none ∧
      (it.next_range (chain_storage key chain) key limit).2.remaining.messages key chain =
        none := by
  obtain ⟨start, i, hi, hcompacted, hinside⟩ := hshape
  obtain ⟨⟨compacted, tail⟩⟩ := it
  simp only at hcompacted
  subst hcompacted
  obtain ⟨hcompacted, _⟩ := take_tail_snd (E := LoadErr)
    ⟨⟨some (key (chain start)[i + 1], key (chain start)[i]), tail⟩⟩ limit
    ((chain start).take (i + 1))
  simp only [next_range, range_from_storage_end_inside hlinked start hi hinside,
    MessagesRange.messages, hcompacted, ne_eq, reduceCtorEq, not_false_eq_true,
    hlinked.segment_key_getElem_of_lt start (Nat.lt_succ_self i) (by omega), Option.map_none,
    and_self]

/-- `next_range limit` against `limit` calls of `next`: it returns the same messages, the first
    `limit` a range stands for, and leaves a range that stands for the same rest exactly outside
    the cut-inside shape; in that shape the range it leaves stands for no messages at all. -/
theorem MessagesRangeIterator.next_range_agrees_with_next_iff {it : MessagesRangeIterator K M}
    {ms : List M} (hmsgs : it.remaining.messages key chain = some ms) {limit : Nat}
    (hlimit : 0 < limit) :
    (it.next_range (chain_storage key chain) key limit).1 = .ok (ms.take limit) ∧
      (ms.take limit).map some =
        (Iterate.take_next (next (chain_storage key chain)) limit it).1.map item_message ∧
      ((it.next_range (chain_storage key chain) key limit).2.remaining.messages key chain =
          (Iterate.take_next (next (chain_storage key chain)) limit it).2.remaining.messages
            key chain ↔
        ¬ it.remaining.EndsInsideBatch key chain limit) ∧
      (it.remaining.EndsInsideBatch key chain limit →
        (it.next_range (chain_storage key chain) key limit).2.remaining.messages key chain =
          none) := by
  obtain ⟨hvalues, hrest⟩ := (next_simulates hlinked).take_next_spec limit it ms hmsgs
  refine ⟨next_range_messages hlinked hmsgs hlimit, hvalues.symm, ⟨fun heq hshape => ?_,
    fun hshape => ?_⟩, fun hshape => (next_range_ends_inside hlinked hshape).2⟩
  · rw [(next_range_ends_inside hlinked hshape).2, hrest] at heq
    cases heq
  · rw [next_range_remaining hlinked hmsgs hlimit hshape, hrest]

end Linked

/-- The two-message chain `1 → 2` of one account, with every message its own key. -/
def two_message_chain : Nat → List Nat
  | 1 => [1, 2]
  | 2 => [2]
  | _ => []

theorem two_message_chain_linked : LinkedChain.Linked id two_message_chain where
  head_key := by
    intro k m rest hchain
    unfold two_message_chain at hchain
    split at hchain <;> simp_all
  tail_eq := by
    intro k m m' rest hchain
    unfold two_message_chain at hchain
    split at hchain
    · simp only [List.cons.injEq] at hchain
      obtain ⟨rfl, rfl, rfl⟩ := hchain
      rfl
    · simp at hchain
    · simp at hchain

/-- The range whose stored part is the single message `1` while the chain goes on to `2`. One
    call of `next` returns `1` and closes the stored part. `next_range 2` returns the same
    message but leaves the stored range `2..=1`, which starts past its own end. -/
theorem next_range_keeps_range_past_end :
    MessagesRangeIterator.next (chain_storage id two_message_chain)
        ⟨⟨some (1, 1), ([] : List (Nat × Nat))⟩⟩ = (some (.ok (1, 1)), ⟨⟨none, []⟩⟩) ∧
      MessagesRangeIterator.next_range (chain_storage id two_message_chain) id
        ⟨⟨some (1, 1), ([] : List (Nat × Nat))⟩⟩ 2 = (.ok [1], ⟨⟨some (2, 1), []⟩⟩) ∧
      MessagesRange.messages id two_message_chain ⟨some (2, 1), ([] : List (Nat × Nat))⟩ = none :=
  ⟨rfl, rfl, rfl⟩

theorem next_range_agrees_with_next_on_two_message_chain :
    (MessagesRangeIterator.next_range (chain_storage id two_message_chain) id
        ⟨⟨some (1, 1), ([] : List (Nat × Nat))⟩⟩ 2).1 = .ok ([1].take 2) ∧
      ([1].take 2).map some = (Iterate.take_next (MessagesRangeIterator.next
        (chain_storage id two_message_chain)) 2 ⟨⟨some (1, 1), []⟩⟩).1.map item_message ∧
      ((MessagesRangeIterator.next_range (chain_storage id two_message_chain) id
          ⟨⟨some (1, 1), ([] : List (Nat × Nat))⟩⟩ 2).2.remaining.messages id two_message_chain =
          (Iterate.take_next (MessagesRangeIterator.next (chain_storage id two_message_chain)) 2
            ⟨⟨some (1, 1), []⟩⟩).2.remaining.messages id two_message_chain ↔
        ¬ MessagesRange.EndsInsideBatch id two_message_chain ⟨some (1, 1), []⟩ 2) ∧
      (MessagesRange.EndsInsideBatch id two_message_chain ⟨some (1, 1), []⟩ 2 →
        (MessagesRangeIterator.next_range (chain_storage id two_message_chain) id
          ⟨⟨some (1, 1), ([] : List (Nat × Nat))⟩⟩ 2).2.remaining.messages id
          two_message_chain = none) :=
  MessagesRangeIterator.next_range_agrees_with_next_iff two_message_chain_linked rfl (by decide)

end ackinacki.account_inbox
