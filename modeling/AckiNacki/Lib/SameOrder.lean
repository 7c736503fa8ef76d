import Mathlib.Data.List.Basic

namespace Interleave

variable {α : Type} [DecidableEq α] {a b : α} {l₁ l₂ : List α}

/-- The elements both lists have come in the same order in each. -/
def SameOrder (l₁ l₂ : List α) : Prop :=
  l₁.filter (· ∈ l₂) = l₂.filter (· ∈ l₁)

instance (l₁ l₂ : List α) : Decidable (SameOrder l₁ l₂) :=
  inferInstanceAs (Decidable (l₁.filter (· ∈ l₂) = l₂.filter (· ∈ l₁)))

theorem SameOrder.refl (l : List α) : SameOrder l l := rfl

theorem SameOrder.symm (h : SameOrder l₁ l₂) : SameOrder l₂ l₁ := Eq.symm h

/-- An element a list lacks does not change which of its elements another list has. -/
theorem filter_mem_cons_of_not_mem {l m : List α} (ha : a ∉ l) :
    l.filter (· ∈ a :: m) = l.filter (· ∈ m) := by
  apply List.filter_congr
  intro x hx
  have hne : x ≠ a := fun hxa => ha (hxa ▸ hx)
  simp [hne]

theorem filter_mem_append_singleton_of_not_mem {l m : List α} (ha : a ∉ l) :
    l.filter (· ∈ m ++ [a]) = l.filter (· ∈ m) := by
  apply List.filter_congr
  intro x hx
  have hne : x ≠ a := fun hxa => ha (hxa ▸ hx)
  simp [hne]

theorem SameOrder.drop_left (h : SameOrder (a :: l₁) l₂) (ha : a ∉ l₂) : SameOrder l₁ l₂ := by
  unfold SameOrder at h ⊢
  rwa [List.filter_cons_of_neg (by simpa using ha), filter_mem_cons_of_not_mem ha] at h

theorem SameOrder.drop_right (h : SameOrder l₁ (a :: l₂)) (ha : a ∉ l₁) : SameOrder l₁ l₂ :=
  (h.symm.drop_left ha).symm

/-- A shared head, which neither tail has again, can be dropped from both. -/
theorem SameOrder.tail (h : SameOrder (a :: l₁) (a :: l₂)) (h₁ : a ∉ l₁) (h₂ : a ∉ l₂) :
    SameOrder l₁ l₂ := by
  unfold SameOrder at h ⊢
  rw [List.filter_cons_of_pos (by simp), List.filter_cons_of_pos (by simp),
    filter_mem_cons_of_not_mem h₁, filter_mem_cons_of_not_mem h₂] at h
  exact (List.cons.inj h).2

/-- Two different heads: when the first list has the second head further down, the second list
    cannot have the first head, or the shared elements would come in two orders. -/
theorem SameOrder.not_mem_of_mem (h : SameOrder (a :: l₁) (b :: l₂)) (hab : a ≠ b)
    (hb : b ∈ l₁) : a ∉ l₂ := by
  intro ha
  unfold SameOrder at h
  rw [List.filter_cons_of_pos (by simp [ha]), List.filter_cons_of_pos (by simp [hb])] at h
  exact hab (List.cons.inj h).1

theorem SameOrder.reverse (h : SameOrder l₁ l₂) : SameOrder l₁.reverse l₂.reverse := by
  unfold SameOrder at h ⊢
  simp only [List.filter_reverse, List.mem_reverse]
  rw [h]

/-- A shared last element, which neither list has before, can be dropped from both. -/
theorem SameOrder.dropLast (h : SameOrder (l₁ ++ [a]) (l₂ ++ [a])) (h₁ : a ∉ l₁) (h₂ : a ∉ l₂) :
    SameOrder l₁ l₂ := by
  unfold SameOrder at h ⊢
  simp only [List.filter_append] at h
  rw [filter_mem_append_singleton_of_not_mem h₁, filter_mem_append_singleton_of_not_mem h₂] at h
  have hlast : [a].filter (· ∈ l₂ ++ [a]) = [a].filter (· ∈ l₁ ++ [a]) := by simp
  rw [hlast] at h
  exact List.append_cancel_right h

end Interleave
