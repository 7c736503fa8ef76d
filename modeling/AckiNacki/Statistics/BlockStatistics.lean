import Mathlib.Data.PNat.Basic
import AckiNacki.Lib.Ring
import AckiNacki.Lib.Select

namespace ackinacki.node.services.statistics

/-- `BlockStatistics`; the window size is the length of `stats`. -/
structure BlockStatistics where
  stats : List Nat
  cursor : Nat
  median_descendants_chain_length_to_meet_threshold : Nat
  deriving DecidableEq, Repr

namespace BlockStatistics

/-- `zero`, from two `NonZeroUsize`s: every slot holds the preset median. -/
def zero (initial_window_size preset_median_descendants_chain_length_to_meet_threshold : ℕ+) :
    BlockStatistics where
  stats := List.replicate initial_window_size
    preset_median_descendants_chain_length_to_meet_threshold
  cursor := 0
  median_descendants_chain_length_to_meet_threshold :=
    preset_median_descendants_chain_length_to_meet_threshold

/-- `Vec::resize`: truncated to `new_len`, or extended with copies of `value`. -/
def vec_resize (stats : List Nat) (new_len value : Nat) : List Nat :=
  stats.take new_len ++ List.replicate (new_len - stats.length) value

/-- The resize at the start of `next`: to at least one slot, filled with the current median,
    and the cursor brought back inside. -/
def resize_window (self : BlockStatistics) (new_window_size : Option Nat) : List Nat × Nat :=
  match new_window_size with
  | some resize =>
    let resize := if resize ≠ 0 then resize else 1
    let stats :=
      vec_resize self.stats resize self.median_descendants_chain_length_to_meet_threshold
    (stats, self.cursor % stats.length)
  | none => (self.stats, self.cursor)

/-- One turn of the write loop of `next`: the distance goes to the cursor's slot and the cursor
    moves on round the slots; `none` is the panic of an index out of bounds. -/
def write_distance (stats_cursor : List Nat × Nat) (e : Nat) : Option (List Nat × Nat) :=
  if stats_cursor.2 < stats_cursor.1.length then
    some (stats_cursor.1.set stats_cursor.2 e, (stats_cursor.2 + 1) % stats_cursor.1.length)
  else none

/-- The middle result of `select_nth_unstable(index)` on a copy of the slots: the element at
    `index` once sorted; `none` is its panic on an index out of bounds. -/
def select_nth_unstable (stats : List Nat) (index : Nat) : Option Nat :=
  Select.nth_smallest stats index

/-- `next`; `none` is a panic. -/
def next (self : BlockStatistics) (finalization_distances_sorted_by_seq_no : List Nat)
    (new_window_size : Option Nat) : Option BlockStatistics := do
  let (stats, cursor) ← finalization_distances_sorted_by_seq_no.foldlM write_distance
    (self.resize_window new_window_size)
  let median ← select_nth_unstable stats (stats.length / 2)
  pure
    { stats
      cursor
      median_descendants_chain_length_to_meet_threshold := if 0 < median then median else 1 }

example : (zero 3 2).next [5, 1, 4] none = some ⟨[5, 1, 4], 0, 4⟩ := by decide

/-- The states `next` never panics on: the cursor inside the slots, and a median of at least
    one. -/
structure Valid (block_stats : BlockStatistics) : Prop where
  cursor_lt : block_stats.cursor < block_stats.stats.length
  median_pos : 0 < block_stats.median_descendants_chain_length_to_meet_threshold

theorem zero_valid (initial_window_size preset : ℕ+) : (zero initial_window_size preset).Valid where
  cursor_lt := by simp [zero]
  median_pos := preset.pos

theorem length_vec_resize (stats : List Nat) (new_len value : Nat) :
    (vec_resize stats new_len value).length = new_len := by
  rw [vec_resize, List.length_append, List.length_take, List.length_replicate]
  omega

theorem resize_window_cursor_lt {self : BlockStatistics} (h : self.Valid)
    (new_window_size : Option Nat) :
    (self.resize_window new_window_size).2 < (self.resize_window new_window_size).1.length := by
  cases new_window_size with
  | none => exact h.cursor_lt
  | some resize =>
    dsimp only [resize_window]
    rw [length_vec_resize]
    apply Nat.mod_lt
    split_ifs <;> omega

/-- The write loop never panics with the cursor inside the slots, keeps their number, and puts
    the distances into the ring newest first. -/
theorem foldlM_write_distance :
    ∀ (ds : List Nat) {stats history : List Nat} {cursor : Nat},
      Ring.Holds stats cursor history →
      ∃ stats' cursor', ds.foldlM write_distance (stats, cursor) = some (stats', cursor') ∧
        Ring.Holds stats' cursor' (ds.reverse ++ history) ∧ stats'.length = stats.length
  | [], stats, _, cursor, h => ⟨stats, cursor, rfl, by simpa using h, rfl⟩
  | e :: ds, stats, history, cursor, h => by
    have hwrite : write_distance (stats, cursor) e =
        some (stats.set cursor e, (cursor + 1) % stats.length) := if_pos h.cursor_lt
    obtain ⟨stats', cursor', hfold, hholds, hlength⟩ := foldlM_write_distance ds (h.write e)
    refine ⟨stats', cursor', ?_, ?_, ?_⟩
    · rw [List.foldlM_cons, hwrite]
      exact hfold
    · simpa using hholds
    · rw [hlength, List.length_set]

theorem select_nth_unstable_half {stats : List Nat} (hpos : 0 < stats.length) :
    ∃ median, select_nth_unstable stats (stats.length / 2) = some median :=
  Option.isSome_iff_exists.mp (Select.nth_smallest_isSome.mpr (Nat.div_lt_self hpos Nat.one_lt_two))

/-- What `next` returns: the slots and the cursor after the write loop, and the median of the
    slots, raised to one if it is zero. -/
theorem next_eq_some {self next_stats : BlockStatistics} {ds : List Nat}
    {new_window_size : Option Nat} (h : self.next ds new_window_size = some next_stats) :
    ds.foldlM write_distance (self.resize_window new_window_size) =
        some (next_stats.stats, next_stats.cursor) ∧
      ∃ median, select_nth_unstable next_stats.stats (next_stats.stats.length / 2) = some median ∧
        next_stats.median_descendants_chain_length_to_meet_threshold =
          if 0 < median then median else 1 := by
  simp only [next, Option.bind_eq_bind, Option.bind_eq_some_iff, Option.pure_def,
    Option.some.injEq] at h
  obtain ⟨⟨stats, cursor⟩, hfold, median, hmedian, rfl⟩ := h
  exact ⟨hfold, median, hmedian, rfl⟩

/-- From a state it never panics on, `next` does not panic, whatever it writes and however it
    resizes, and leaves a state it never panics on. -/
theorem next_valid {self : BlockStatistics} (h : self.Valid) (ds : List Nat)
    (new_window_size : Option Nat) :
    ∃ next_stats, self.next ds new_window_size = some next_stats ∧ next_stats.Valid := by
  obtain ⟨stats', cursor', hfold, hholds, -⟩ :=
    foldlM_write_distance ds (Ring.Holds.read_back (resize_window_cursor_lt h new_window_size))
  obtain ⟨median, hmedian⟩ :=
    select_nth_unstable_half (Nat.lt_of_le_of_lt (Nat.zero_le _) hholds.cursor_lt)
  refine ⟨⟨stats', cursor', if 0 < median then median else 1⟩, ?_, hholds.cursor_lt, ?_⟩
  · simp [next, hfold, hmedian]
  · dsimp only
    split_ifs <;> omega

/-- Without a resize, `next` puts the distances into the ring newest first and keeps the number
    of slots. -/
theorem next_holds {self next_stats : BlockStatistics} {ds history : List Nat}
    (hholds : Ring.Holds self.stats self.cursor history)
    (h : self.next ds none = some next_stats) :
    Ring.Holds next_stats.stats next_stats.cursor (ds.reverse ++ history) ∧
      next_stats.stats.length = self.stats.length := by
  obtain ⟨stats', cursor', hfold, hholds', hlength⟩ := foldlM_write_distance ds hholds
  have hfold' := (next_eq_some h).1
  rw [resize_window, hfold] at hfold'
  obtain ⟨rfl, rfl⟩ := Prod.mk.inj (Option.some.inj hfold')
  exact ⟨hholds', hlength⟩

/-- The median `next` reads off slots holding a history is of rank `len / 2` among the newest
    `len` writes, raised to one if it is zero. -/
theorem median_isRank {next_stats : BlockStatistics} {history : List Nat}
    (hholds : Ring.Holds next_stats.stats next_stats.cursor history)
    {median : Nat}
    (hmedian : select_nth_unstable next_stats.stats (next_stats.stats.length / 2) = some median) :
    Select.IsRank (history.take next_stats.stats.length) (next_stats.stats.length / 2) median :=
  (Select.isRank_perm hholds.perm _ _).mp (Select.nth_smallest_isRank hmedian)

end BlockStatistics

end ackinacki.node.services.statistics
