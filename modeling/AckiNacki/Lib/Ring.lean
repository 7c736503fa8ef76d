import Mathlib.Algebra.BigOperators.Fin
import Mathlib.Data.Nat.ModEq
import Mathlib.Tactic.Abel

namespace Ring

/-- One step of a cursor round `w` slots: it wraps to slot `0` exactly when it reaches `w`. -/
theorem succ_mod_eq_ite {w : Nat} (hw : 0 < w) (n : Nat) :
    (n + 1) % w = if n % w + 1 ≥ w then 0 else n % w + 1 := by
  have hdiv := Nat.mod_add_div n w
  have hlt := Nat.mod_lt n hw
  split_ifs with hwrap
  · have hmul : n + 1 = w * (n / w + 1) := by
      rw [Nat.mul_succ]
      omega
    rw [hmul, Nat.mul_mod_right]
  · have hsplit : n + 1 = (n % w + 1) + w * (n / w) := by omega
    rw [hsplit, Nat.add_mul_mod_self_left, Nat.mod_eq_of_lt (by omega)]

/-- A cursor that wraps has gone round at least once. -/
theorem le_succ_of_wrap {w n : Nat} (hwrap : n % w + 1 ≥ w) : w ≤ n + 1 := by
  have := Nat.mod_le n w
  omega

/-- A cursor that does not wrap has not just completed its first round. -/
theorem le_succ_iff_of_not_wrap {w n : Nat} (hwrap : ¬ n % w + 1 ≥ w) :
    w ≤ n + 1 ↔ w ≤ n := by
  constructor
  · intro hle
    by_contra hlt
    have hmod : n % w = n := Nat.mod_eq_of_lt (by omega)
    omega
  · omega

/-- The `w` most recent of `n` writes go to distinct slots. -/
theorem sub_mod_injective {w n k k' : Nat} (hk : k < w) (hk' : k' < w) (hkn : k ≤ n)
    (hk'n : k' ≤ n) (h : (n - k) % w = (n - k') % w) : k = k' := by
  have hshift : Nat.ModEq w (n - k + (k + k')) (n - k' + (k + k')) := Nat.ModEq.add_right _ h
  have hsum : Nat.ModEq w (n + k') (n + k) := by
    rwa [show n - k + (k + k') = n + k' by omega, show n - k' + (k + k') = n + k by omega]
      at hshift
  exact ((Nat.ModEq.add_left_cancel' n hsum).eq_of_lt_of_lt hk' hk).symm

variable {M : Type} [AddCommMonoid M]

/-- Overwriting a slot changes the sum by the new value less the old one. -/
theorem sum_set_add (l : List M) {i : Nat} (hi : i < l.length) (x : M) :
    (l.set i x).sum + l[i] = l.sum + x := by
  have hsplit : l.sum = (l.take i).sum + (l[i] + (l.drop (i + 1)).sum) := by
    rw [← List.sum_cons, ← List.drop_eq_getElem_cons hi, List.sum_take_add_sum_drop]
  rw [List.sum_set, if_pos hi, hsplit]
  abel

/-- If every slot `(n - k) % w` holds the write `k` back from the `n`-th (newest first in
    `history`), for every `k < w`, the slots sum to the last `w` writes. -/
theorem sum_eq_sum_take {slots history : List M} {n : Nat} (hn : slots.length ≤ n)
    (hhistory : slots.length ≤ history.length)
    (hslot : ∀ k < slots.length, slots[(n - k) % slots.length]? = history[k]?) :
    slots.sum = (history.take slots.length).sum := by
  let back : Fin slots.length → M := fun k => history.get ⟨k.1, by omega⟩
  let slot : Fin slots.length → Fin slots.length := fun k => ⟨(n - k) % slots.length, Nat.mod_lt _ k.pos⟩
  have htake : history.take slots.length = List.ofFn back := by
    apply List.ext_getElem
    · simp [Nat.min_eq_left hhistory]
    · intro i _ _
      simp [back]
  have hslot_injective : Function.Injective slot := by
    intro k k' h
    exact Fin.ext (sub_mod_injective k.2 k'.2 (by omega) (by omega) (Fin.mk.inj_iff.mp h))
  have hback : ∀ k, back k = slots[(slot k).1] := by
    intro k
    have h := hslot k k.2
    rw [List.getElem?_eq_getElem (Nat.mod_lt _ k.pos), List.getElem?_eq_getElem (by omega)] at h
    exact (Option.some.inj h).symm
  calc slots.sum = ∑ j : Fin slots.length, slots[j.1] := by
        rw [← List.sum_ofFn, List.ofFn_getElem]
    _ = ∑ k, back k :=
        (Fintype.sum_bijective slot
          ((Fintype.bijective_iff_injective_and_card slot).mpr ⟨hslot_injective, rfl⟩)
          back (fun j => slots[j.1]) hback).symm
    _ = (history.take slots.length).sum := by rw [htake, List.sum_ofFn]

section Window

variable {α : Type}

/-- A value below `2 * w` reduces modulo `w` by at most one subtraction. -/
theorem mod_eq_ite_of_lt_add {v w : Nat} (hv : v < w + w) : v % w = if v < w then v else v - w := by
  split_ifs with hlt
  · exact Nat.mod_eq_of_lt hlt
  · rw [Nat.mod_eq_sub_mod (by omega), Nat.mod_eq_of_lt (by omega)]

/-- The slot of the write `k` back round `w` slots from the cursor: the newest write sits just
    behind the cursor. -/
def slot_behind (w cursor k : Nat) : Nat := (cursor + w - 1 - k) % w

theorem slot_behind_lt {w : Nat} (hw : 0 < w) (cursor k : Nat) : slot_behind w cursor k < w :=
  Nat.mod_lt _ hw

/-- Once the cursor has moved on, the newest write is the one at the old cursor. -/
theorem slot_behind_succ_zero {w cursor : Nat} (hc : cursor < w) :
    slot_behind w ((cursor + 1) % w) 0 = cursor := by
  rw [slot_behind, mod_eq_ite_of_lt_add (v := cursor + 1) (by omega)]
  split_ifs with hwrap
  · rw [mod_eq_ite_of_lt_add (by omega), if_neg (by omega)]
    omega
  · rw [mod_eq_ite_of_lt_add (by omega), if_pos (by omega)]
    omega

/-- Once the cursor has moved on, the write `k + 1` back is where the write `k` back was. -/
theorem slot_behind_succ_succ {w cursor k : Nat} (hc : cursor < w) (hk : k + 1 < w) :
    slot_behind w ((cursor + 1) % w) (k + 1) = slot_behind w cursor k := by
  rw [slot_behind, slot_behind, mod_eq_ite_of_lt_add (v := cursor + 1) (by omega)]
  split_ifs with hwrap
  · congr 1
    omega
  · rw [mod_eq_ite_of_lt_add (v := cursor + w - 1 - k) (by omega),
      mod_eq_ite_of_lt_add (by omega)]
    split_ifs <;> omega

/-- Less than a whole round back, a write is not in the cursor's slot. -/
theorem slot_behind_ne {w cursor k : Nat} (hc : cursor < w) (hk : k + 1 < w) :
    slot_behind w cursor k ≠ cursor := by
  rw [slot_behind, mod_eq_ite_of_lt_add (by omega)]
  split_ifs <;> omega

/-- The slots, with the cursor where the next write goes, hold `history` newest first: the
    write `k` back is in the `k`-th slot behind the cursor, for every slot. -/
structure Holds (slots : List α) (cursor : Nat) (history : List α) : Prop where
  cursor_lt : cursor < slots.length
  length_le : slots.length ≤ history.length
  slot_eq : ∀ k < slots.length, slots[slot_behind slots.length cursor k]? = history[k]?

/-- Slots that all hold one value hold as many copies of it, wherever the cursor is. -/
theorem Holds.replicate {w cursor : Nat} (hc : cursor < w) (x : α) :
    Holds (List.replicate w x) cursor (List.replicate w x) where
  cursor_lt := by simpa using hc
  length_le := le_refl _
  slot_eq k hk := by
    rw [List.length_replicate] at hk ⊢
    simp [slot_behind_lt (Nat.lt_of_le_of_lt (Nat.zero_le _) hc), hk]

/-- Whatever the slots hold, they hold it read back from the cursor. -/
theorem Holds.read_back {slots : List α} {cursor : Nat} (hc : cursor < slots.length) :
    Holds slots cursor (List.ofFn fun k : Fin slots.length =>
      slots.get ⟨slot_behind slots.length cursor k,
        slot_behind_lt (Nat.lt_of_le_of_lt (Nat.zero_le _) hc) cursor k⟩) where
  cursor_lt := hc
  length_le := by simp
  slot_eq k hk := by
    simp [hk, List.getElem?_eq_getElem (slot_behind_lt (Nat.lt_of_le_of_lt (Nat.zero_le _) hc) cursor k)]

/-- Writing at the cursor and moving it on makes the written value the newest. -/
theorem Holds.write {slots history : List α} {cursor : Nat} (h : Holds slots cursor history)
    (x : α) : Holds (slots.set cursor x) ((cursor + 1) % slots.length) (x :: history) where
  cursor_lt := by
    rw [List.length_set]
    exact Nat.mod_lt _ (Nat.lt_of_le_of_lt (Nat.zero_le _) h.cursor_lt)
  length_le := by
    rw [List.length_set, List.length_cons]
    exact Nat.le_succ_of_le h.length_le
  slot_eq k hk := by
    rw [List.length_set] at hk ⊢
    cases k with
    | zero => simp [slot_behind_succ_zero h.cursor_lt, h.cursor_lt]
    | succ k =>
      rw [slot_behind_succ_succ h.cursor_lt hk,
        List.getElem?_set_ne (slot_behind_ne h.cursor_lt hk).symm, List.getElem?_cons_succ]
      exact h.slot_eq k (by omega)

/-- Slots that hold a history hold its newest writes, one per slot, in some order. -/
theorem Holds.perm {slots history : List α} {cursor : Nat} (h : Holds slots cursor history) :
    slots.Perm (history.take slots.length) := by
  have hw : 0 < slots.length := Nat.lt_of_le_of_lt (Nat.zero_le _) h.cursor_lt
  let slot : Fin slots.length → Fin slots.length := fun k =>
    ⟨slot_behind slots.length cursor k, slot_behind_lt hw cursor k⟩
  have hslot_injective : Function.Injective slot := by
    intro k k' hkk'
    exact Fin.ext (sub_mod_injective k.2 k'.2 (by omega) (by omega) (Fin.mk.inj_iff.mp hkk'))
  let σ : Equiv.Perm (Fin slots.length) :=
    Equiv.ofBijective slot (Finite.injective_iff_bijective.mp hslot_injective)
  have htake : history.take slots.length =
      List.ofFn ((fun j : Fin slots.length => slots[j.1]) ∘ σ) := by
    apply List.ext_getElem
    · simp [Nat.min_eq_left h.length_le]
    · intro k hk _
      have hslot := h.slot_eq k (by simp at hk; exact hk.1)
      rw [List.getElem?_eq_getElem (slot_behind_lt hw cursor k),
        List.getElem?_eq_getElem (by simp at hk; omega)] at hslot
      simpa [σ, slot] using (Option.some.inj hslot).symm
  rw [htake]
  refine List.Perm.trans ?_ (Equiv.Perm.ofFn_comp_perm σ _).symm
  rw [List.ofFn_getElem]

end Window

end Ring
