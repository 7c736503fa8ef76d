import Mathlib.Data.List.Sort

namespace Select

variable {α : Type} [LinearOrder α]

/-- The `n`-th smallest element of `l`, counting from `0`; `none` when `l` has at most `n`
    elements. -/
def nth_smallest (l : List α) (n : Nat) : Option α :=
  (l.insertionSort (· ≤ ·))[n]?

/-- `m` has rank `n` among the elements of `l`, counted with multiplicity. -/
def IsRank (l : List α) (n : Nat) (m : α) : Prop :=
  l.countP (· < m) ≤ n ∧ n < l.countP (· ≤ m)

theorem nth_smallest_isSome {l : List α} {n : Nat} :
    (nth_smallest l n).isSome ↔ n < l.length := by
  simp [nth_smallest, (List.perm_insertionSort _ l).length_eq]

theorem isRank_perm {l l' : List α} (h : l.Perm l') (n : Nat) (m : α) :
    IsRank l n m ↔ IsRank l' n m := by
  rw [IsRank, IsRank, h.countP_eq, h.countP_eq]

/-- In a sorted list the element at index `n` has rank `n`: what lies before it is at most it,
    and what lies after it at least it. -/
theorem isRank_of_sorted {s : List α} (hs : s.Pairwise (· ≤ ·)) {n : Nat} (hn : n < s.length) :
    IsRank s n s[n] := by
  rw [List.pairwise_iff_getElem] at hs
  constructor
  · have hdrop : (s.drop n).countP (· < s[n]) = 0 := by
      rw [List.countP_eq_zero]
      intro x hx
      obtain ⟨j, hj, rfl⟩ := List.getElem_of_mem hx
      rw [List.getElem_drop]
      rcases Nat.eq_or_lt_of_le (Nat.le_add_right n j) with hnj | hnj
      · simp [← hnj]
      · simpa using hs n (n + j) hn (by simp at hj; omega) hnj
    calc s.countP (· < s[n]) = (s.take n).countP (· < s[n]) + (s.drop n).countP (· < s[n]) := by
          rw [← List.countP_append, List.take_append_drop]
      _ ≤ n := by
          rw [hdrop, Nat.add_zero]
          exact (List.countP_le_length).trans (List.length_take_le n s)
  · have htake : (s.take (n + 1)).countP (· ≤ s[n]) = n + 1 := by
      rw [List.countP_eq_length.mpr, List.length_take, Nat.min_eq_left (by omega)]
      intro x hx
      obtain ⟨i, hi, rfl⟩ := List.getElem_of_mem hx
      rw [List.getElem_take]
      have hin : i ≤ n := by simp at hi; omega
      rcases Nat.eq_or_lt_of_le hin with rfl | hlt
      · simp
      · simpa using hs i n (by omega) hn hlt
    have hsub : (s.take (n + 1)).countP (· ≤ s[n]) ≤ s.countP (· ≤ s[n]) :=
      (List.take_sublist (n + 1) s).countP_le
    omega

theorem nth_smallest_isRank {l : List α} {n : Nat} {m : α} (h : nth_smallest l n = some m) :
    IsRank l n m := by
  rw [nth_smallest, List.getElem?_eq_some_iff] at h
  obtain ⟨hn, rfl⟩ := h
  rw [isRank_perm (List.perm_insertionSort (fun a b : α => a ≤ b) l).symm]
  exact isRank_of_sorted (List.pairwise_insertionSort _ l) hn

/-- In a list of copies of one value, that value has every rank. -/
theorem isRank_replicate {n w : Nat} (hn : n < w) (x : α) : IsRank (List.replicate w x) n x := by
  constructor
  · simp [List.countP_replicate]
  · simpa [List.countP_replicate] using hn

end Select
