import Mathlib.Order.Defs.Unbundled
import Mathlib.Data.List.Pairwise
import Mathlib.Tactic.SplitIfs
import Mathlib.Tactic.Tauto

namespace OrderedMap

variable {K V : Type} [DecidableEq K] (lt : K → K → Prop) [DecidableRel lt]

/-- Insert into a map ordered by `lt`, replacing the value of an equal key. -/
def insert (k : K) (v : V) : List (K × V) → List (K × V)
  | [] => [(k, v)]
  | (k', v') :: rest =>
    if k = k' then (k, v) :: rest
    else if lt k k' then (k, v) :: (k', v') :: rest
    else (k', v') :: insert k v rest

/-- The keys increase along `lt`. -/
def Sorted (m : List (K × V)) : Prop := (m.map Prod.fst).Pairwise lt

variable {lt}

omit [DecidableEq K] in
theorem lookup_cons_ne {k k' : K} {v : V} {rest : List (K × V)} [BEq K] [LawfulBEq K]
    (hne : k' ≠ k) : ((k, v) :: rest).lookup k' = rest.lookup k' := by
  rw [List.lookup_cons, beq_false_of_ne hne]

theorem mem_keys_insert {k k' : K} {v : V} :
    ∀ {m : List (K × V)}, k' ∈ (insert lt k v m).map Prod.fst ↔ k' = k ∨ k' ∈ m.map Prod.fst
  | [] => by simp [insert]
  | (k'', v'') :: rest => by
    simp only [insert]
    split_ifs with heq hlt
    · subst heq
      simp
    · simp
    · simp only [List.map_cons, List.mem_cons, mem_keys_insert]
      tauto

theorem lookup_cons_eq {k : K} {v : V} {rest : List (K × V)} :
    ((k, v) :: rest).lookup k = some v :=
  List.lookup_cons_self

/-- Inserting keeps the keys in order. -/
theorem Sorted.insert [IsStrictTotalOrder K lt] {k : K} {v : V} :
    ∀ {m : List (K × V)}, Sorted lt m → Sorted lt (OrderedMap.insert lt k v m)
  | [], _ => List.pairwise_singleton _ _
  | (k', v') :: rest, hsorted => by
    rw [Sorted, List.map_cons, List.pairwise_cons] at hsorted
    obtain ⟨hfirst, hrest⟩ := hsorted
    simp only [OrderedMap.insert]
    split_ifs with heq hlt
    · subst heq
      exact List.pairwise_cons.mpr ⟨hfirst, hrest⟩
    · refine List.pairwise_cons.mpr ⟨?_, List.pairwise_cons.mpr ⟨hfirst, hrest⟩⟩
      intro x hx
      rcases List.mem_cons.mp hx with rfl | hx
      · exact hlt
      · exact IsTrans.trans _ _ _ hlt (hfirst x hx)
    · have hbelow : lt k' k := by
        rcases trichotomous_of lt k k' with h | h | h
        · exact absurd h hlt
        · exact absurd h heq
        · exact h
      refine List.pairwise_cons.mpr ⟨?_, Sorted.insert hrest⟩
      intro x hx
      rcases mem_keys_insert.mp hx with rfl | hx
      · exact hbelow
      · exact hfirst x hx

omit [DecidableEq K] [DecidableRel lt] in
/-- Filtering keeps the keys in order. -/
theorem Sorted.filter {m : List (K × V)} (hsorted : Sorted lt m) (p : K × V → Bool) :
    Sorted lt (m.filter p) := by
  have hsub : List.Sublist (m.filter p) m := List.filter_sublist
  exact hsorted.sublist (hsub.map Prod.fst)

omit [DecidableRel lt] in
/-- A key whose projection no other key shares is found by scanning for its projection. -/
theorem lookup_eq_find? {β : Type} [DecidableEq β] (g : K → β) {k : K} :
    ∀ {m : List (K × V)}, (∀ k' ∈ m.map Prod.fst, g k' = g k → k' = k) →
      m.lookup k = (m.find? fun entry => g entry.1 = g k).map Prod.snd
  | [], _ => rfl
  | (k', v') :: rest, hunique => by
    by_cases hk : k' = k
    · subst hk
      rw [lookup_cons_eq, List.find?_cons_of_pos (by simp)]
      rfl
    · have hg : g k' ≠ g k := fun hg => hk (hunique k' List.mem_cons_self hg)
      have hrest := lookup_eq_find? g fun k'' hk'' => hunique k'' (List.mem_cons_of_mem _ hk'')
      rw [lookup_cons_ne (Ne.symm hk), hrest, List.find?_cons_of_neg (by simpa using hg)]

end OrderedMap
