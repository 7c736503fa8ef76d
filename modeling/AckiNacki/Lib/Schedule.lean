import Mathlib.Algebra.Order.BigOperators.Group.Finset

namespace Schedule

/-- When round `r` begins, for rounds of lengths `length 0, length 1, …` run back to back from
    time `0`. -/
def start (length : Nat → Nat) (r : Nat) : Nat :=
  ∑ i ∈ Finset.range r, length i

/-- Time `t` falls `e` into round `r`. -/
def At (length : Nat → Nat) (t r e : Nat) : Prop :=
  start length r + e = t ∧ e < length r

theorem start_succ (length : Nat → Nat) (r : Nat) :
    start length (r + 1) = start length r + length r :=
  Finset.sum_range_succ _ r

theorem start_le_start (length : Nat → Nat) {r r' : Nat} (h : r ≤ r') :
    start length r ≤ start length r' :=
  Finset.sum_le_sum_of_subset (Finset.range_subset_range.mpr h)

/-- The rounds after the first `n` make a schedule of their own, begun when round `n` begins. -/
theorem start_add (length : Nat → Nat) (n r : Nat) :
    start length (n + r) = start length n + start (fun i => length (n + i)) r :=
  Finset.sum_range_add _ n r

/-- Rounds of one length `d` begin every `d`. -/
theorem start_of_const {length : Nat → Nat} {d r : Nat} (hconst : ∀ i < r, length i = d) :
    start length r = r * d := by
  rw [start, Finset.sum_const_nat fun i hi => hconst i (Finset.mem_range.mp hi), Finset.card_range]

/-- Among rounds of one length `d`, a time `e < d` past the start of round `r` falls in it. -/
theorem At.of_const {length : Nat → Nat} {d r e : Nat} (hconst : ∀ i ≤ r, length i = d)
    (he : e < d) : At length (r * d + e) r e :=
  ⟨by rw [start_of_const fun i hi => hconst i hi.le], (hconst r le_rfl).symm ▸ he⟩

/-- A time in the schedule of the rounds after the first `n` falls in the whole schedule, `n`
    rounds later. -/
theorem At.shift {length : Nat → Nat} {n t r e : Nat} (h : At (fun i => length (n + i)) t r e) :
    At length (start length n + t) (n + r) e := by
  obtain ⟨hstart, hlt⟩ := h
  exact ⟨by rw [start_add, ← hstart, Nat.add_assoc], hlt⟩

/-- A later time falls in the same round or a later one. -/
theorem At.le_of_le {length : Nat → Nat} {t t' r r' e e' : Nat} (h : At length t r e)
    (h' : At length t' r' e') (ht : t ≤ t') : r ≤ r' := by
  by_contra hlt
  have hstarts : start length (r' + 1) ≤ start length r :=
    start_le_start length (Nat.succ_le_of_lt (Nat.lt_of_not_le hlt))
  rw [start_succ] at hstarts
  obtain ⟨hstart, -⟩ := h
  obtain ⟨hstart', hlt'⟩ := h'
  omega

end Schedule
