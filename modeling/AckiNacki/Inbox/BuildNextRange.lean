import AckiNacki.Inbox.NextRange

namespace ackinacki.account_inbox

/-- `BuildNextRangeError`. -/
inductive BuildNextRangeError (M SE IE : Type) where
  | StorageError (e : SE)
  | InvalidRangeOrConsumedMessage (next_consumed next_in_range : M)
  | RangeIteratorError (e : IE)
  | OutOfRange (m : M)
  deriving DecidableEq, Repr

variable {K M E : Type} [DecidableEq K] [DecidableEq M]

/-- One turn of the loop of `build_next_range`: the next message of the iterator, which must be
    the consumed one. -/
def consume_next (db : DurableStorageRead K M E) (iterator : MessagesRangeIterator K M)
    (consumed : M) :
    Except (BuildNextRangeError M E (IteratorError E K)) (MessagesRangeIterator K M) :=
  match iterator.next db with
  | (none, _) => .error (.OutOfRange consumed)
  | (some (.error e), _) => .error (.RangeIteratorError e)
  | (some (.ok (actual, _)), iterator') =>
    if actual ≠ consumed then .error (.InvalidRangeOrConsumedMessage consumed actual)
    else .ok iterator'

/-- `build_next_range`: extend the tail, then consume through an iterator over the range. -/
def build_next_range (db : DurableStorageRead K M E) (range : MessagesRange K M)
    (appended_messages : List (K × M)) (consumed_messages : List M) :
    Except (BuildNextRangeError M E (IteratorError E K)) (MessagesRange K M) := do
  let range := range.add_messages appended_messages
  let iterator ← consumed_messages.foldlM (consume_next db) (MessagesRangeIterator.new range)
  pure iterator.remaining

example :
    build_next_range (chain_storage id two_message_chain) ⟨some (1, 2), []⟩ [(3, 3)] [1, 3] =
      .error (.InvalidRangeOrConsumedMessage 3 2) := rfl

variable {key : M → K} {chain : K → List M}

omit [DecidableEq M] in
/-- The appended messages follow the messages a range stands for. -/
theorem messages_add_messages {range : MessagesRange K M} {ms : List M}
    (hmsgs : range.messages key chain = some ms) (appended_messages : List (K × M)) :
    (range.add_messages appended_messages).messages key chain =
      some (ms ++ appended_messages.map Prod.snd) := by
  obtain ⟨compacted, tail⟩ := range
  cases compacted with
  | none =>
    simp only [MessagesRange.messages, Option.some.injEq] at hmsgs
    simp [MessagesRange.messages, MessagesRange.add_messages, ← hmsgs]
  | some range =>
    simp only [MessagesRange.messages, Option.map_eq_some_iff] at hmsgs
    obtain ⟨segment, hsegment, rfl⟩ := hmsgs
    simp [MessagesRange.messages, MessagesRange.add_messages, hsegment]

section Linked

variable (hlinked : LinkedChain.Linked key chain)
include hlinked

/-- On a range with a next message, a turn takes it and fails unless it is the consumed one. -/
theorem consume_next_cons {iterator : MessagesRangeIterator K M} {m : M} {ms : List M}
    (consumed : M) (hmsgs : iterator.remaining.messages key chain = some (m :: ms)) :
    ∃ iterator', iterator'.remaining.messages key chain = some ms ∧
      consume_next (chain_storage key chain) iterator consumed =
        if m ≠ consumed then .error (.InvalidRangeOrConsumedMessage consumed m)
        else .ok iterator' := by
  obtain ⟨k, iterator', hnext, hrest⟩ := MessagesRangeIterator.next_spec hlinked hmsgs
  refine ⟨iterator', hrest, ?_⟩
  rw [consume_next, hnext]

omit hlinked in
/-- On a consumed range, a turn fails with the consumed message out of range. -/
theorem consume_next_nil {iterator : MessagesRangeIterator K M} (consumed : M)
    (hmsgs : iterator.remaining.messages key chain = some []) :
    consume_next (chain_storage key chain) iterator consumed = .error (.OutOfRange consumed) := by
  rw [consume_next, MessagesRangeIterator.next_done hmsgs]

/-- Refinement: `build_next_range` strips the consumed messages off the messages the range
    stands for followed by the appended ones. -/
theorem build_next_range_refines {range : MessagesRange K M} {ms : List M}
    (hmsgs : range.messages key chain = some ms) (appended_messages : List (K × M))
    (consumed_messages : List M) :
    (build_next_range (chain_storage key chain) range appended_messages consumed_messages).map
        (fun next_range => next_range.messages key chain) =
      (Iterate.strip_expected BuildNextRangeError.InvalidRangeOrConsumedMessage
        BuildNextRangeError.OutOfRange (ms ++ appended_messages.map Prod.snd)
        consumed_messages).map some := by
  have hrun : (consumed_messages.foldlM (consume_next (chain_storage key chain))
        (MessagesRangeIterator.new (range.add_messages appended_messages))).map
          (fun iterator => iterator.remaining.messages key chain) =
      (Iterate.strip_expected BuildNextRangeError.InvalidRangeOrConsumedMessage
        BuildNextRangeError.OutOfRange (ms ++ appended_messages.map Prod.snd)
        consumed_messages).map some :=
    Iterate.foldlM_strip_expected (consume_next_cons hlinked) consume_next_nil consumed_messages
      (messages_add_messages hmsgs appended_messages)
  rw [← hrun, build_next_range]
  generalize consumed_messages.foldlM (consume_next (chain_storage key chain))
    (MessagesRangeIterator.new (range.add_messages appended_messages)) = run
  cases run <;> rfl

theorem build_next_range_strips_consumed {range : MessagesRange K M} {ms : List M}
    (hmsgs : range.messages key chain = some ms) (appended_messages : List (K × M))
    (consumed_messages : List M) :
    (∀ next_range, build_next_range (chain_storage key chain) range appended_messages
          consumed_messages = .ok next_range →
        ∃ rest, ms ++ appended_messages.map Prod.snd = consumed_messages ++ rest ∧
          next_range.messages key chain = some rest) ∧
      (∀ rest, ms ++ appended_messages.map Prod.snd = consumed_messages ++ rest →
        ∃ next_range, build_next_range (chain_storage key chain) range appended_messages
          consumed_messages = .ok next_range ∧ next_range.messages key chain = some rest) ∧
      ((¬∃ rest, ms ++ appended_messages.map Prod.snd = consumed_messages ++ rest) ↔
        ∃ e, build_next_range (chain_storage key chain) range appended_messages
          consumed_messages = .error e) ∧
      ∀ e, build_next_range (chain_storage key chain) range appended_messages
          consumed_messages = .error e →
        (∃ consumed, e = .OutOfRange consumed) ∨
          ∃ consumed actual, consumed ≠ actual ∧
            e = .InvalidRangeOrConsumedMessage consumed actual := by
  have hrefines := build_next_range_refines hlinked hmsgs appended_messages consumed_messages
  obtain ⟨hok, herror⟩ := Iterate.except_map_eq_map_some hrefines
  have hsuccess : ∀ next_range, build_next_range (chain_storage key chain) range
      appended_messages consumed_messages = .ok next_range →
      ∃ rest, ms ++ appended_messages.map Prod.snd = consumed_messages ++ rest ∧
        next_range.messages key chain = some rest := by
    intro next_range hbuild
    rw [hbuild] at hrefines
    cases hstrip : Iterate.strip_expected BuildNextRangeError.InvalidRangeOrConsumedMessage
        BuildNextRangeError.OutOfRange (ms ++ appended_messages.map Prod.snd) consumed_messages with
    | error e =>
      rw [hstrip] at hrefines
      cases hrefines
    | ok rest =>
      rw [hstrip] at hrefines
      exact ⟨rest, Iterate.strip_expected_eq_ok_iff.mp hstrip, (Except.ok.inj hrefines)⟩
  refine ⟨hsuccess, fun rest hprefix => (hok rest).mpr (Iterate.strip_expected_eq_ok_iff.mpr hprefix),
    ⟨fun hnot => ?_, fun ⟨e, hbuild⟩ ⟨rest, hprefix⟩ => ?_⟩,
    fun e hbuild => Iterate.strip_expected_eq_error ((herror e).mp hbuild)⟩
  · cases hbuild : build_next_range (chain_storage key chain) range appended_messages
        consumed_messages with
    | error e => exact ⟨e, rfl⟩
    | ok next_range =>
      obtain ⟨rest, hprefix, -⟩ := hsuccess next_range hbuild
      exact absurd ⟨rest, hprefix⟩ hnot
  · have hstrip := (herror e).mp hbuild
    rw [Iterate.strip_expected_eq_ok_iff.mpr hprefix] at hstrip
    cases hstrip

end Linked

/-- The range `1..=2` of the chain `1 → 2`, with the message `3` appended and `1` consumed. -/
theorem build_next_range_on_two_message_chain :
    (∀ next_range, build_next_range (chain_storage id two_message_chain) ⟨some (1, 2), []⟩
          [(3, 3)] [1] = .ok next_range →
        ∃ rest, [1, 2] ++ [(3, 3)].map Prod.snd = [1] ++ rest ∧
          next_range.messages id two_message_chain = some rest) ∧
      (∀ rest, [1, 2] ++ [(3, 3)].map Prod.snd = [1] ++ rest →
        ∃ next_range, build_next_range (chain_storage id two_message_chain) ⟨some (1, 2), []⟩
          [(3, 3)] [1] = .ok next_range ∧ next_range.messages id two_message_chain = some rest) ∧
      ((¬∃ rest, [1, 2] ++ [(3, 3)].map Prod.snd = [1] ++ rest) ↔
        ∃ e, build_next_range (chain_storage id two_message_chain) ⟨some (1, 2), []⟩ [(3, 3)]
          [1] = .error e) ∧
      ∀ e, build_next_range (chain_storage id two_message_chain) ⟨some (1, 2), []⟩ [(3, 3)] [1] =
          .error e →
        (∃ consumed, e = .OutOfRange consumed) ∨
          ∃ consumed actual, consumed ≠ actual ∧
            e = .InvalidRangeOrConsumedMessage consumed actual :=
  build_next_range_strips_consumed two_message_chain_linked rfl [(3, 3)] [1]

end ackinacki.account_inbox
