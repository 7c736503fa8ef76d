import Mathlib.Tactic.Abel
import Mathlib.Algebra.Order.Group.Multiset
import AckiNacki.Lib.Fifo
import AckiNacki.Attestation.Collected

namespace ackinacki.types.attestation

open ackinacki.block_keeper_system (BlockKeeperSet)

namespace Occurrences

/-- A signer with a nonzero count. -/
def Counted (occurrences : Occurrences) (signer : SignerIndex) : Prop :=
  ∃ count, (signer, count) ∈ occurrences ∧ count ≠ 0

/-- The entries of an occurrence map sorted by signer, each signer once: a `HashMap` written in
    one order, so that equal maps are equal lists. -/
def WellFormed (occurrences : Occurrences) : Prop :=
  (occurrences.map Prod.fst).Pairwise (· < ·)

@[simp] theorem count_nil (signer : SignerIndex) : Occurrences.count [] signer = 0 := rfl

theorem wellFormed_nil : WellFormed [] := List.Pairwise.nil

theorem count_cons (k v : Nat) (rest : Occurrences) (signer : SignerIndex) :
    Occurrences.count ((k, v) :: rest) signer = if signer = k then v else rest.count signer := by
  by_cases hk : signer = k
  · subst hk
    simp [count]
  · simp only [count, List.lookup_cons, beq_false_of_ne hk, if_neg hk]

theorem count_eq_zero_of_lt {k v : Nat} {rest : Occurrences} (hwf : WellFormed ((k, v) :: rest))
    {signer : Nat} (hlt : signer < k) : Occurrences.count ((k, v) :: rest) signer = 0 := by
  rw [count_cons, if_neg (Nat.ne_of_lt hlt)]
  unfold WellFormed at hwf
  rw [List.map_cons, List.pairwise_cons] at hwf
  have hnone : rest.lookup signer = none := Fifo.lookup_eq_none_of_not_mem fun hmem => by
    have hk : k < signer := hwf.1 signer hmem
    omega
  simp [count, hnone]

theorem WellFormed.of_cons {entry : SignerIndex × Nat} {rest : Occurrences}
    (hwf : WellFormed (entry :: rest)) : WellFormed rest :=
  (List.pairwise_cons.mp hwf).2

/-- The first signer of a well-formed map is not in the rest of it. -/
theorem WellFormed.count_rest {k v : Nat} {rest : Occurrences} (hwf : WellFormed ((k, v) :: rest)) :
    rest.count k = 0 := by
  unfold WellFormed at hwf
  rw [List.map_cons, List.pairwise_cons] at hwf
  have hnone : rest.lookup k = none := Fifo.lookup_eq_none_of_not_mem fun hmem => by
    have hk : k < k := hwf.1 k hmem
    omega
  simp [count, hnone]

/-- Counting a well-formed map: its first signer and the signers of the rest apart. -/
theorem WellFormed.count_cons_eq {k v : Nat} {rest : Occurrences}
    (hwf : WellFormed ((k, v) :: rest)) (signer : SignerIndex) :
    Occurrences.count ((k, v) :: rest) signer = rest.count signer + if signer = k then v else 0 := by
  rw [count_cons]
  by_cases hk : signer = k
  · subst hk
    simp [hwf.count_rest]
  · simp [hk]

/-- Every count of the map fits in a `u16`, as in a `HashMap<SignerIndex, u16>`. -/
def Bounded (occurrences : Occurrences) : Prop :=
  ∀ signer, occurrences.count signer < 2 ^ 16

theorem bounded_nil : Bounded [] := fun signer => by simp

theorem wellFormed_singleton (entry : SignerIndex × Nat) : WellFormed [entry] :=
  List.pairwise_singleton _ _

theorem bounded_singleton {signer count : Nat} (hcount : count < 2 ^ 16) :
    Bounded [(signer, count)] := fun t => by
  rw [count_cons]
  split
  · exact hcount
  · simp

end Occurrences

open Occurrences

theorem counted_add_occurrence {signer count : Nat} :
    ∀ {acc r : Occurrences}, add_occurrence acc (signer, count) = some r →
      ∀ t, r.Counted t ↔ acc.Counted t ∨ (t = signer ∧ count ≠ 0)
  | [], r, hadd, t => by
    simp only [add_occurrence, Option.some.injEq] at hadd
    subst hadd
    simp [Counted]
  | (k, v) :: rest, r, hadd, t => by
    simp only [add_occurrence] at hadd
    split_ifs at hadd with hlt heq
    · cases hadd
      simp only [Counted, List.mem_cons, Prod.mk.injEq]
      constructor
      · rintro ⟨c, (⟨rfl, rfl⟩ | hmem), hc⟩
        · exact .inr ⟨rfl, hc⟩
        · exact .inl ⟨c, hmem, hc⟩
      · rintro (⟨c, hmem, hc⟩ | ⟨rfl, hc⟩)
        · exact ⟨c, .inr hmem, hc⟩
        · exact ⟨count, .inl ⟨rfl, rfl⟩, hc⟩
    · cases hadd
      subst heq
      simp only [Counted, List.mem_cons, Prod.mk.injEq]
      constructor
      · rintro ⟨c, (⟨rfl, rfl⟩ | hmem), hc⟩
        · by_cases hv : v = 0
          · exact .inr ⟨rfl, by omega⟩
          · exact .inl ⟨v, .inl ⟨rfl, rfl⟩, hv⟩
        · exact .inl ⟨c, .inr hmem, hc⟩
      · rintro (⟨c, (⟨rfl, rfl⟩ | hmem), hc⟩ | ⟨rfl, hc⟩)
        · exact ⟨c + count, .inl ⟨rfl, rfl⟩, by omega⟩
        · exact ⟨c, .inr hmem, hc⟩
        · exact ⟨v + count, .inl ⟨rfl, rfl⟩, by omega⟩
    · obtain ⟨r', hr', rfl⟩ := Option.map_eq_some_iff.mp hadd
      have hrest := counted_add_occurrence hr' t
      simp only [Counted, List.mem_cons, Prod.mk.injEq] at hrest ⊢
      constructor
      · rintro ⟨c, (⟨rfl, rfl⟩ | hmem), hc⟩
        · exact .inl ⟨c, .inl ⟨rfl, rfl⟩, hc⟩
        · rcases hrest.mp ⟨c, hmem, hc⟩ with ⟨c', hmem', hc'⟩ | hsigner
          · exact .inl ⟨c', .inr hmem', hc'⟩
          · exact .inr hsigner
      · rintro (⟨c, (⟨rfl, rfl⟩ | hmem), hc⟩ | hsigner)
        · exact ⟨c, .inl ⟨rfl, rfl⟩, hc⟩
        · obtain ⟨c', hmem', hc'⟩ := hrest.mpr (.inl ⟨c, hmem, hc⟩)
          exact ⟨c', .inr hmem', hc'⟩
        · obtain ⟨c', hmem', hc'⟩ := hrest.mpr (.inr hsigner)
          exact ⟨c', .inr hmem', hc'⟩

/-- Adding a count to a well-formed map keeps it well formed and adds to that signer's count. -/
theorem count_add_occurrence {signer count : Nat} :
    ∀ {acc r : Occurrences}, acc.WellFormed → add_occurrence acc (signer, count) = some r →
      r.WellFormed ∧ ∀ t, r.count t = acc.count t + if t = signer then count else 0
  | [], r, _, hadd => by
    simp only [add_occurrence, Option.some.injEq] at hadd
    subst hadd
    refine ⟨List.pairwise_singleton _ _, fun t => ?_⟩
    simp [count_cons]
  | (k, v) :: rest, r, hwf, hadd => by
    have hkeys := List.pairwise_cons.mp (show ((k, v) :: rest).map Prod.fst |>.Pairwise (· < ·) from hwf)
    simp only [add_occurrence] at hadd
    split_ifs at hadd with hlt heq
    · cases hadd
      refine ⟨List.pairwise_cons.mpr ⟨fun a ha => ?_, hwf⟩, fun t => ?_⟩
      · rcases List.mem_cons.mp ha with rfl | ha
        · exact hlt
        · exact hlt.trans (hkeys.1 a ha)
      · rw [count_cons]
        by_cases ht : t = signer
        · subst ht
          simp [count_eq_zero_of_lt hwf hlt]
        · simp [ht]
    · cases hadd
      subst heq
      refine ⟨hwf, fun t => ?_⟩
      rw [count_cons, count_cons]
      by_cases ht : t = signer <;> simp [ht]
    · obtain ⟨r', hr', rfl⟩ := Option.map_eq_some_iff.mp hadd
      obtain ⟨hwf', hcount⟩ := count_add_occurrence (WellFormed.of_cons hwf) hr'
      refine ⟨List.pairwise_cons.mpr ⟨fun a ha => ?_, hwf'⟩, fun t => ?_⟩
      · rcases mem_signers_of_add_occurrence hr' a ha with rfl | ha
        · exact Nat.lt_of_le_of_ne (Nat.not_lt.mp hlt) fun hk => heq hk.symm
        · exact hkeys.1 a ha
      · rw [count_cons, count_cons, hcount]
        by_cases htk : t = k
        · have hts : t ≠ signer := fun hts => heq (hts ▸ htk)
          subst htk
          simp [hts]
        · simp [htk]

/-- A count can be added when the sum fits in a `u16`. -/
theorem add_occurrence_isSome {signer count : Nat} :
    ∀ {acc : Occurrences}, acc.WellFormed → acc.count signer + count < 2 ^ 16 →
      ∃ r, add_occurrence acc (signer, count) = some r
  | [], _, _ => ⟨_, rfl⟩
  | (k, v) :: rest, hwf, hfit => by
    simp only [add_occurrence]
    split_ifs with hlt heq hfit'
    · exact ⟨_, rfl⟩
    · exact ⟨_, rfl⟩
    · subst heq
      rw [count_cons, if_pos rfl] at hfit
      exact absurd hfit hfit'
    · rw [count_cons, if_neg heq] at hfit
      obtain ⟨r', hr'⟩ := add_occurrence_isSome (WellFormed.of_cons hwf) hfit
      exact ⟨_, by rw [hr']; rfl⟩

/-- Adding a well-formed map adds the counts, and it succeeds when every sum fits in a `u16`. -/
theorem count_add_occurrences {acc more r : Occurrences} (hacc : acc.WellFormed)
    (hmore : more.WellFormed) (hadd : add_occurrences acc more = some r) :
    r.WellFormed ∧ ∀ t, r.count t = acc.count t + more.count t := by
  induction more generalizing acc with
  | nil =>
    obtain rfl := Iterate.foldlM_option_nil.mp hadd
    exact ⟨hacc, fun t => by simp⟩
  | cons entry more ih =>
    obtain ⟨signer, count⟩ := entry
    obtain ⟨acc', hstep, hrest⟩ := Iterate.foldlM_option_cons.mp hadd
    obtain ⟨hacc', hcount'⟩ := count_add_occurrence hacc hstep
    obtain ⟨hwf, hcount⟩ := ih hacc' (WellFormed.of_cons hmore) hrest
    refine ⟨hwf, fun t => ?_⟩
    rw [hcount, hcount', hmore.count_cons_eq]
    ac_rfl

theorem add_occurrences_isSome {acc more : Occurrences} (hacc : acc.WellFormed)
    (hmore : more.WellFormed) (hfit : ∀ t, acc.count t + more.count t < 2 ^ 16) :
    ∃ r, add_occurrences acc more = some r := by
  induction more generalizing acc with
  | nil => exact ⟨acc, rfl⟩
  | cons entry more ih =>
    obtain ⟨signer, count⟩ := entry
    have hfirst : acc.count signer + count < 2 ^ 16 := by
      have := hfit signer
      rwa [count_cons, if_pos rfl] at this
    obtain ⟨acc', hstep⟩ := add_occurrence_isSome hacc hfirst
    obtain ⟨hacc', hcount'⟩ := count_add_occurrence hacc hstep
    obtain ⟨r, hr⟩ := ih hacc' (WellFormed.of_cons hmore) fun t => by
      have hsum : acc'.count t + Occurrences.count more t =
          acc.count t + Occurrences.count ((signer, count) :: more) t := by
        rw [hcount', hmore.count_cons_eq]
        ac_rfl
      rw [hsum]
      exact hfit t
    exact ⟨r, Iterate.foldlM_option_cons.mpr ⟨acc', hstep, hr⟩⟩

/-- A signer above every signer of the map goes at its end. -/
theorem add_occurrence_append {signer count : Nat} :
    ∀ {acc : Occurrences}, (∀ entry ∈ acc, entry.1 < signer) →
      add_occurrence acc (signer, count) = some (acc ++ [(signer, count)])
  | [], _ => rfl
  | (k, v) :: rest, habove => by
    have hk : k < signer := habove (k, v) List.mem_cons_self
    simp only [add_occurrence, if_neg (Nat.not_lt.mpr hk.le), if_neg (Nat.ne_of_lt hk).symm]
    rw [add_occurrence_append fun entry hentry => habove entry (List.mem_cons_of_mem _ hentry)]
    rfl

/-- Adding a map whose signers all come after those of `acc` appends it. -/
theorem add_occurrences_append :
    ∀ {acc more : Occurrences}, WellFormed (acc ++ more) → add_occurrences acc more = some (acc ++ more)
  | acc, [], _ => by simp [add_occurrences]
  | acc, (signer, count) :: more, hwf => by
    have habove : ∀ entry ∈ acc, entry.1 < signer := fun entry hentry => by
      unfold WellFormed at hwf
      rw [List.map_append, List.pairwise_append] at hwf
      exact hwf.2.2 entry.1 (List.mem_map_of_mem hentry) signer (by simp)
    have hwf' : WellFormed ((acc ++ [(signer, count)]) ++ more) := by
      rwa [List.append_assoc, List.singleton_append]
    unfold add_occurrences
    rw [List.foldlM_cons, add_occurrence_append habove]
    exact (add_occurrences_append hwf').trans (by simp)

/-- Adding a well-formed map to the empty one gives it back. -/
theorem add_occurrences_nil {occurrences : Occurrences} (hwf : occurrences.WellFormed) :
    add_occurrences [] occurrences = some occurrences :=
  add_occurrences_append hwf

/-- With a count that fits in a `u16`, `add_occurrence` panics exactly when the new count of its
    signer does not. -/
theorem add_occurrence_eq_none_iff {signer count : Nat} (hcount : count < 2 ^ 16) :
    ∀ {acc : Occurrences}, acc.WellFormed →
      (add_occurrence acc (signer, count) = none ↔ 2 ^ 16 ≤ acc.count signer + count)
  | [], _ => by
    simp only [add_occurrence, reduceCtorEq, count_nil, Nat.zero_add, false_iff, Nat.not_le]
    exact hcount
  | (k, v) :: rest, hwf => by
    simp only [add_occurrence]
    split_ifs with hlt heq hfit
    · rw [count_eq_zero_of_lt hwf hlt]
      simp only [Nat.zero_add, false_iff, Nat.not_le]
      exact hcount
    · subst heq
      rw [count_cons, if_pos rfl]
      simp only [false_iff, Nat.not_le]
      exact hfit
    · subst heq
      rw [count_cons, if_pos rfl]
      simp only [true_iff]
      omega
    · rw [count_cons, if_neg heq, ← add_occurrence_eq_none_iff hcount (WellFormed.of_cons hwf)]
      cases add_occurrence rest (signer, count) <;> simp

/-- A bounded map stays bounded under an `add_occurrence` that does not panic. -/
theorem Occurrences.Bounded.add_occurrence {acc r : Occurrences} {signer count : Nat} (hacc : acc.WellFormed)
    (hbounded : acc.Bounded) (hcount : count < 2 ^ 16)
    (hadd : add_occurrence acc (signer, count) = some r) : r.Bounded := by
  have hfit : acc.count signer + count < 2 ^ 16 := Nat.not_le.mp fun hover => by
    rw [(add_occurrence_eq_none_iff hcount hacc).mpr hover] at hadd
    cases hadd
  intro t
  rw [(count_add_occurrence hacc hadd).2 t]
  by_cases ht : t = signer
  · subst ht
    simpa using hfit
  · simpa [ht] using hbounded t

/-- **The overflow panic**: adding two bounded maps panics when the counts of one signer add up
    past a `u16`. -/
theorem add_occurrences_eq_none {acc more : Occurrences} (hacc : acc.WellFormed)
    (hbounded : acc.Bounded) (hmore : more.WellFormed) (hmore_bounded : more.Bounded)
    {signer : SignerIndex} (hover : 2 ^ 16 ≤ acc.count signer + more.count signer) :
    add_occurrences acc more = none := by
  induction more generalizing acc with
  | nil =>
    simp only [count_nil, Nat.add_zero] at hover
    exact absurd (hbounded signer) (Nat.not_lt.mpr hover)
  | cons entry more ih =>
    obtain ⟨k, v⟩ := entry
    have hv : v < 2 ^ 16 := by simpa [count_cons] using hmore_bounded k
    have hrest_bounded : Bounded more := fun t =>
      Nat.lt_of_le_of_lt (by rw [hmore.count_cons_eq]; omega) (hmore_bounded t)
    unfold add_occurrences
    rw [List.foldlM_cons]
    cases hstep : add_occurrence acc (k, v) with
    | none => rfl
    | some acc' =>
      have hcount := (count_add_occurrence hacc hstep).2
      refine ih (count_add_occurrence hacc hstep).1 (hbounded.add_occurrence hacc hv hstep)
        (WellFormed.of_cons hmore) hrest_bounded ?_
      rw [hcount]
      calc 2 ^ 16 ≤ acc.count signer + Occurrences.count ((k, v) :: more) signer := hover
        _ = acc.count signer + (if signer = k then v else 0) + Occurrences.count more signer := by
          rw [hmore.count_cons_eq]
          ac_rfl

section Parts

variable {Sig : Type}

/-- The count of one signer over all parts. -/
def total_count (parts : List (Occurrences × Sig)) (signer : SignerIndex) : Nat :=
  (parts.map fun part => part.1.count signer).sum

@[simp] theorem total_count_nil (signer : SignerIndex) :
    total_count ([] : List (Occurrences × Sig)) signer = 0 := rfl

@[simp] theorem total_count_cons (part : Occurrences × Sig) (parts : List (Occurrences × Sig))
    (signer : SignerIndex) :
    total_count (part :: parts) signer = part.1.count signer + total_count parts signer := by
  simp [total_count]

@[simp] theorem total_count_append (parts parts' : List (Occurrences × Sig)) (signer : SignerIndex) :
    total_count (parts ++ parts') signer = total_count parts signer + total_count parts' signer := by
  simp [total_count]

/-- The loop over the parts adds up their counts. -/
theorem count_fold_add_occurrences :
    ∀ {parts : List (Occurrences × Sig)} {acc r : Occurrences}, acc.WellFormed →
      (∀ part ∈ parts, part.1.WellFormed) →
      parts.foldlM (fun acc part => add_occurrences acc part.1) acc = some r →
      r.WellFormed ∧ ∀ t, r.count t = acc.count t + total_count parts t
  | [], acc, r, hacc, _, hrun => by
    obtain rfl := Iterate.foldlM_option_nil.mp hrun
    exact ⟨hacc, fun t => by simp⟩
  | part :: parts, acc, r, hacc, hparts, hrun => by
    obtain ⟨hpart, hparts⟩ := List.forall_mem_cons.mp hparts
    obtain ⟨acc', hstep, hrest⟩ := Iterate.foldlM_option_cons.mp hrun
    obtain ⟨hacc', hcount'⟩ := count_add_occurrences hacc hpart hstep
    obtain ⟨hwf, hcount⟩ := count_fold_add_occurrences hacc' hparts hrest
    refine ⟨hwf, fun t => ?_⟩
    rw [hcount, hcount', total_count_cons, Nat.add_assoc]

/-- The loop over the parts does not panic when every total fits in a `u16`. -/
theorem fold_add_occurrences_isSome :
    ∀ {parts : List (Occurrences × Sig)} {acc : Occurrences}, acc.WellFormed →
      (∀ part ∈ parts, part.1.WellFormed) → (∀ t, acc.count t + total_count parts t < 2 ^ 16) →
      ∃ r, parts.foldlM (fun acc part => add_occurrences acc part.1) acc = some r
  | [], acc, _, _, _ => ⟨acc, rfl⟩
  | part :: parts, acc, hacc, hparts, hfit => by
    obtain ⟨hpart, hparts⟩ := List.forall_mem_cons.mp hparts
    obtain ⟨acc', hstep⟩ := add_occurrences_isSome hacc hpart fun t => by
      have := hfit t
      rw [total_count_cons] at this
      omega
    have hcount' := (count_add_occurrences hacc hpart hstep).2
    obtain ⟨r, hr⟩ := fold_add_occurrences_isSome (count_add_occurrences hacc hpart hstep).1 hparts
      fun t => by
        have := hfit t
        rw [total_count_cons] at this
        rw [hcount']
        omega
    exact ⟨r, Iterate.foldlM_option_cons.mpr ⟨acc', hstep, hr⟩⟩

/-- The loop over bounded parts panics when the counts of one signer add up past a `u16`. -/
theorem fold_add_occurrences_eq_none :
    ∀ {parts : List (Occurrences × Sig)} {acc : Occurrences}, acc.WellFormed → acc.Bounded →
      (∀ part ∈ parts, part.1.WellFormed ∧ part.1.Bounded) →
      ∀ {signer : SignerIndex}, 2 ^ 16 ≤ acc.count signer + total_count parts signer →
        parts.foldlM (fun acc part => add_occurrences acc part.1) acc = none
  | [], _, _, hbounded, _, signer, hover => by
    simp only [total_count_nil, Nat.add_zero] at hover
    exact absurd (hbounded signer) (Nat.not_lt.mpr hover)
  | part :: parts, acc, hacc, hbounded, hparts, signer, hover => by
    obtain ⟨⟨hpart, hpart_bounded⟩, hparts⟩ := List.forall_mem_cons.mp hparts
    rw [List.foldlM_cons]
    cases hstep : add_occurrences acc part.1 with
    | none => rfl
    | some acc' =>
      have hcount' := (count_add_occurrences hacc hpart hstep).2
      have hbounded' : acc'.Bounded := fun t => by
        rw [hcount']
        refine Nat.not_le.mp fun hover' => ?_
        rw [add_occurrences_eq_none hacc hbounded hpart hpart_bounded hover'] at hstep
        cases hstep
      have hover' : 2 ^ 16 ≤ acc'.count signer + total_count parts signer := by
        rw [hcount', Nat.add_assoc, ← total_count_cons]
        exact hover
      exact fold_add_occurrences_eq_none (count_add_occurrences hacc hpart hstep).1 hbounded'
        hparts hover'

end Parts

/-- The signers `add_occurrences` counts are those of either map. -/
theorem counted_add_occurrences {acc more r : Occurrences} (hadd : add_occurrences acc more = some r)
    (t : SignerIndex) : r.Counted t ↔ acc.Counted t ∨ more.Counted t := by
  induction more generalizing acc with
  | nil =>
    obtain rfl := Iterate.foldlM_option_nil.mp hadd
    simp [Counted]
  | cons entry more ih =>
    obtain ⟨acc', hstep, hrest⟩ := Iterate.foldlM_option_cons.mp hadd
    rw [ih hrest, counted_add_occurrence hstep]
    simp only [Counted, List.mem_cons]
    constructor
    · rintro ((hacc | ⟨rfl, hc⟩) | ⟨c, hmem, hc⟩)
      · exact .inl hacc
      · exact .inr ⟨entry.2, .inl rfl, hc⟩
      · exact .inr ⟨c, .inr hmem, hc⟩
    · rintro (hacc | ⟨c, (hentry | hmem), hc⟩)
      · exact .inl (.inl hacc)
      · subst hentry
        exact .inl (.inr ⟨rfl, hc⟩)
      · exact .inr ⟨c, hmem, hc⟩

section Optimistic

variable {Sig P N I H : Type} (bls : BLSSignatureScheme Sig P (AttestationData I H))

/-- `try_fold_all_optimistic` panics when the counts of one signer over all parts add up past a
    `u16`, whether the parts verify or not. -/
theorem try_fold_all_optimistic_eq_none {to_combine : List (Occurrences × Sig)}
    (hparts : ∀ part ∈ to_combine, part.1.WellFormed ∧ part.1.Bounded) {signer : SignerIndex}
    (hover : 2 ^ 16 ≤ total_count to_combine signer) (attestation_data : AttestationData I H)
    (bk_set : BlockKeeperSet SignerIndex P N) :
    try_fold_all_optimistic bls attestation_data to_combine bk_set = none := by
  have hover' : 2 ^ 16 ≤ Occurrences.count [] signer + total_count to_combine signer := by
    simpa using hover
  unfold try_fold_all_optimistic
  rw [fold_add_occurrences_eq_none wellFormed_nil bounded_nil hparts hover']
  rfl

/-- So does `try_fold`: the checked path is never reached. -/
theorem try_fold_eq_none_of_overflow {to_combine : List (Occurrences × Sig)}
    (hparts : ∀ part ∈ to_combine, part.1.WellFormed ∧ part.1.Bounded) {signer : SignerIndex}
    (hover : 2 ^ 16 ≤ total_count to_combine signer) (attestation_data : AttestationData I H)
    (bk_set : BlockKeeperSet SignerIndex P N) :
    try_fold bls attestation_data to_combine bk_set = none := by
  unfold try_fold
  rw [try_fold_all_optimistic_eq_none bls hparts hover]
  rfl

end Optimistic

section Checked

variable {Sig P N I H : Type} (bls : BLSSignatureScheme Sig P (AttestationData I H))
  (attestation_data : AttestationData I H) (bk_set : BlockKeeperSet SignerIndex P N)

/-- The envelope the checked path makes of one part. -/
def part_envelope (part : Occurrences × Sig) : Envelope Sig I H :=
  Envelope.create part.2 part.1 attestation_data

/-- Whether one part verifies on its own, the test of the checked path. -/
def part_verifies (part : Occurrences × Sig) : Bool :=
  match (part_envelope attestation_data part).verify_signatures bls bk_set.signer_to_pubkey with
  | .ok true => true
  | _ => false

variable {bls attestation_data bk_set}

/-- A part that does not verify is poisoned. -/
theorem fold_one_checked_of_not_verifies {result : TryFoldResult Sig I H}
    {part : Occurrences × Sig} (h : part_verifies bls attestation_data bk_set part = false) :
    fold_one_checked bls attestation_data bk_set result part =
      some { result with poisoned := result.poisoned ++ [part_envelope attestation_data part] } := by
  obtain ⟨occurrences, signature⟩ := part
  unfold part_verifies part_envelope at h
  unfold fold_one_checked
  dsimp only at h ⊢
  split
  · rename_i hverify
    rw [hverify] at h
    cases h
  · rfl

/-- The first part that verifies starts the fold. -/
theorem fold_one_checked_of_verifies_of_none {result : TryFoldResult Sig I H}
    {part : Occurrences × Sig} (h : part_verifies bls attestation_data bk_set part = true)
    (hfolded : result.folded = none) :
    fold_one_checked bls attestation_data bk_set result part =
      some { result with folded := some (part_envelope attestation_data part) } := by
  obtain ⟨occurrences, signature⟩ := part
  unfold part_verifies part_envelope at h
  unfold fold_one_checked
  dsimp only at h ⊢
  split
  · rw [hfolded]
    rfl
  · rename_i hverify
    split at h
    · exact absurd ‹_› hverify
    · cases h

end Checked

section Group

variable {Sig P I H : Type} [AddCommMonoid Sig] (sign : P → AttestationData I H → Sig)

/-- BLS aggregation in the group model: `sign pubkey data` is the signature of the key's owner on
    `data`. A merge adds, and an aggregate verifies when it is the sum of the signatures of its
    public keys on the data, each as many times as its count. -/
def group_bls [DecidableEq Sig] : BLSSignatureScheme Sig P (AttestationData I H) where
  verify signature pubkeys_occurrences data :=
    .ok (decide (signature = (pubkeys_occurrences.map fun e => e.2 • sign e.1 data).sum))
  merge one another := .ok (one + another)
  merge_all signatures := .ok signatures.sum

/-- A signer's signature on the data, through its public key; `0` for an unknown signer. -/
def signer_signature (signers : AList (fun _ : SignerIndex => P)) (data : AttestationData I H)
    (signer : SignerIndex) : Sig :=
  ((signers.lookup signer).map (sign · data)).getD 0

/-- The aggregate an occurrence map stands for: each signer's signature, as many times as its
    count. -/
def signed_sum (signers : AList (fun _ : SignerIndex => P)) (data : AttestationData I H)
    (occurrences : Occurrences) : Sig :=
  (occurrences.map fun e => e.2 • signer_signature sign signers data e.1).sum

/-- What `verify_signatures` accepts in the group model: every counted signer is known, there is
    one, and the aggregate is the sum the occurrence map stands for. -/
structure Verifies (signers : AList (fun _ : SignerIndex => P)) (data : AttestationData I H)
    (signature : Sig) (occurrences : Occurrences) : Prop where
  known : ∀ t, occurrences.Counted t → (signers.lookup t).isSome
  signed : ∃ t, occurrences.Counted t
  sum : signature = signed_sum sign signers data occurrences

/-- What the checked path builds from the parts `valid` that verified: the sum of their
    signatures, on the sum of their counts, and an aggregate that verifies. -/
structure Folds (signers : AList (fun _ : SignerIndex => P)) (data : AttestationData I H)
    (valid : List (Occurrences × Sig)) (envelope : Envelope Sig I H) : Prop where
  data_eq : envelope.data = data
  signature_eq : envelope.aggregated_signature = (valid.map (·.2)).sum
  wellFormed : envelope.signature_occurrences.WellFormed
  count_eq : ∀ t, envelope.signature_occurrences.count t = total_count valid t
  verifies : Verifies sign signers data envelope.aggregated_signature envelope.signature_occurrences

/-- The fold of the parts `valid`, and nothing when there are none. -/
def FoldOf (signers : AList (fun _ : SignerIndex => P)) (data : AttestationData I H)
    (valid : List (Occurrences × Sig)) : Option (Envelope Sig I H) → Prop
  | none => valid = []
  | some envelope => Folds sign signers data valid envelope

/-- The checked path after the parts `processed`: the parts that failed are poisoned in their
    order, and those that verified are folded. -/
structure CheckedFold [DecidableEq Sig] {N : Type} (data : AttestationData I H)
    (bk_set : BlockKeeperSet SignerIndex P N) (processed : List (Occurrences × Sig))
    (result : TryFoldResult Sig I H) : Prop where
  poisoned_eq : result.poisoned =
    (processed.filter fun part => !part_verifies (group_bls sign) data bk_set part).map
      (part_envelope data)
  folded : FoldOf sign bk_set.signer_to_pubkey data
    (processed.filter (part_verifies (group_bls sign) data bk_set)) result.folded

variable {sign} {signers : AList (fun _ : SignerIndex => P)} {data : AttestationData I H}

/-- One part that verifies folds on its own. -/
theorem Folds.single {part : Occurrences × Sig} (hpart : Verifies sign signers data part.2 part.1)
    (hwf : part.1.WellFormed) : Folds sign signers data [part] (part_envelope data part) where
  data_eq := rfl
  signature_eq := by simp [part_envelope, Envelope.create]
  wellFormed := hwf
  count_eq t := by simp [part_envelope, Envelope.create]
  verifies := hpart

theorem signed_sum_add_occurrence {signer count : Nat} :
    ∀ {acc r : Occurrences}, add_occurrence acc (signer, count) = some r →
      signed_sum sign signers data r =
        signed_sum sign signers data acc + count • signer_signature sign signers data signer
  | [], r, hadd => by
    simp only [add_occurrence, Option.some.injEq] at hadd
    subst hadd
    simp [signed_sum]
  | (k, v) :: rest, r, hadd => by
    simp only [add_occurrence] at hadd
    split_ifs at hadd with hlt heq
    · cases hadd
      simp only [signed_sum, List.map_cons, List.sum_cons]
      abel
    · cases hadd
      subst heq
      simp only [signed_sum, List.map_cons, List.sum_cons, add_nsmul]
      abel
    · obtain ⟨r', hr', rfl⟩ := Option.map_eq_some_iff.mp hadd
      have hrest := signed_sum_add_occurrence hr'
      simp only [signed_sum, List.map_cons, List.sum_cons] at hrest ⊢
      rw [hrest, add_assoc]

/-- **Aggregates add**: the sum an added map stands for is the sum of those of its parts. -/
theorem signed_sum_add_occurrences {acc more r : Occurrences}
    (hadd : add_occurrences acc more = some r) :
    signed_sum sign signers data r = signed_sum sign signers data acc + signed_sum sign signers data more := by
  induction more generalizing acc with
  | nil =>
    obtain rfl := Iterate.foldlM_option_nil.mp hadd
    simp [signed_sum]
  | cons entry more ih =>
    obtain ⟨acc', hstep, hrest⟩ := Iterate.foldlM_option_cons.mp hadd
    rw [ih hrest, signed_sum_add_occurrence hstep]
    simp only [signed_sum, List.map_cons, List.sum_cons]
    abel

/-- Merging two aggregates that verify gives one that verifies. -/
theorem Verifies.add_occurrences {signature signature' : Sig} {occurrences occurrences' r : Occurrences}
    (h : Verifies sign signers data signature occurrences)
    (h' : Verifies sign signers data signature' occurrences')
    (hadd : add_occurrences occurrences occurrences' = some r) :
    Verifies sign signers data (signature + signature') r where
  known t ht := by
    rcases (counted_add_occurrences hadd t).mp ht with ht | ht
    · exact h.known t ht
    · exact h'.known t ht
  signed := by
    obtain ⟨t, ht⟩ := h.signed
    exact ⟨t, (counted_add_occurrences hadd t).mpr (.inl ht)⟩
  sum := by rw [signed_sum_add_occurrences hadd, h.sum, h'.sum]

/-- Folding one more part that verifies: the signatures add, and so do the counts. -/
theorem Folds.add {valid : List (Occurrences × Sig)} {envelope : Envelope Sig I H}
    {part : Occurrences × Sig} {occurrences : Occurrences}
    (h : Folds sign signers data valid envelope) (hpart : Verifies sign signers data part.2 part.1)
    (hwf : part.1.WellFormed)
    (hadd : add_occurrences envelope.signature_occurrences part.1 = some occurrences) :
    Folds sign signers data (valid ++ [part])
      (Envelope.create (envelope.aggregated_signature + part.2) occurrences data) where
  data_eq := rfl
  signature_eq := by simp [Envelope.create, h.signature_eq]
  wellFormed := (count_add_occurrences h.wellFormed hwf hadd).1
  count_eq t := by
    simp [Envelope.create, (count_add_occurrences h.wellFormed hwf hadd).2 t, h.count_eq]
  verifies := h.verifies.add_occurrences hpart hadd

/-- An aggregate of one known signer verifies exactly when it is its signature, as many times as
    it is counted. -/
theorem verifies_singleton_iff {signer count : Nat} {pubkey : P} {signature : Sig}
    (hpubkey : signers.lookup signer = some pubkey) (hcount : count ≠ 0) :
    Verifies sign signers data signature [(signer, count)] ↔ signature = count • sign pubkey data := by
  have hsum : signed_sum sign signers data [(signer, count)] = count • sign pubkey data := by
    simp [signed_sum, signer_signature, hpubkey]
  constructor
  · intro h
    rw [h.sum, hsum]
  · intro h
    refine ⟨fun t ht => ?_, ⟨signer, count, List.mem_singleton_self _, hcount⟩, by rw [h, hsum]⟩
    obtain ⟨c, hmem, _⟩ := ht
    obtain ⟨rfl, rfl⟩ := Prod.mk.inj (List.mem_singleton.mp hmem)
    simp [hpubkey]

/-- The signers counted zero times add nothing to the aggregate. -/
theorem signed_sum_filter (occurrences : Occurrences) :
    signed_sum sign signers data (occurrences.filter fun occurrence => occurrence.2 ≠ 0) =
      signed_sum sign signers data occurrences := by
  induction occurrences with
  | nil => rfl
  | cons entry occurrences ih =>
    by_cases hzero : entry.2 = 0
    · rw [List.filter_cons_of_neg (by simp [hzero]), ih]
      simp [signed_sum, hzero]
    · rw [List.filter_cons_of_pos (by simp [hzero])]
      simp only [signed_sum, List.map_cons, List.sum_cons] at ih ⊢
      rw [ih]

/-- The public keys with counts that `verify_signatures` hands to `verify` stand for the same
    aggregate as the occurrence map they come from. -/
theorem sum_pubkeys_occurrences :
    ∀ {occurrences : Occurrences} {pubkeys_occurrences : List (P × Nat)},
      occurrences.mapM (fun occurrence => (signers.lookup occurrence.1).map (·, occurrence.2)) =
        some pubkeys_occurrences →
      (pubkeys_occurrences.map fun e => e.2 • sign e.1 data).sum =
        signed_sum sign signers data occurrences
  | [], pubkeys_occurrences, h => by
    simp only [List.mapM_nil, Option.pure_def, Option.some.injEq] at h
    subst h
    rfl
  | occurrence :: occurrences, pubkeys_occurrences, h => by
    obtain ⟨b, bs, hb, hbs, rfl⟩ := Iterate.mapM_cons_eq_some.mp h
    obtain ⟨pubkey, hpubkey, rfl⟩ := Option.map_eq_some_iff.mp hb
    simp only [List.map_cons, List.sum_cons, sum_pubkeys_occurrences hbs, signed_sum,
      signer_signature, hpubkey, Option.map_some, Option.getD_some]

variable [DecidableEq Sig]

/-- **`verify_signatures` in the group model**: it accepts exactly the aggregates that
    `Verifies` describes. -/
theorem verify_signatures_group (envelope : Envelope Sig I H) :
    envelope.verify_signatures (group_bls sign) signers = .ok true ↔
      Verifies sign signers envelope.data envelope.aggregated_signature
        envelope.signature_occurrences := by
  unfold Envelope.verify_signatures
  dsimp only
  set counted := envelope.signature_occurrences.filter fun occurrence => occurrence.2 ≠ 0
    with hcounted
  have hmem : ∀ t, envelope.signature_occurrences.Counted t ↔ ∃ c, (t, c) ∈ counted := by
    intro t
    simp [Counted, hcounted, List.mem_filter]
  cases hmap : counted.mapM (fun occurrence => (signers.lookup occurrence.1).map (·, occurrence.2)) with
  | none =>
    dsimp only
    refine ⟨fun h => (by cases h), fun hverifies => ?_⟩
    have hnot : ¬ (counted.mapM fun occurrence =>
        (signers.lookup occurrence.1).map (·, occurrence.2)).isSome := by simp [hmap]
    rw [Iterate.mapM_option_isSome] at hnot
    push Not at hnot
    obtain ⟨occurrence, hocc, hnone⟩ := hnot
    have hknown := hverifies.known occurrence.1 ((hmem _).mpr ⟨occurrence.2, hocc⟩)
    simp [Option.isSome_map, hknown] at hnone
  | some pubkeys_occurrences =>
    dsimp only
    have hlength := congrArg List.length (Iterate.map_eq_of_mapM_eq_some hmap)
    simp only [List.length_map] at hlength
    by_cases hempty : pubkeys_occurrences.isEmpty
    · rw [if_pos hempty]
      refine ⟨fun h => (by cases h), fun hverifies => ?_⟩
      obtain ⟨t, ht⟩ := hverifies.signed
      obtain ⟨c, hc⟩ := (hmem t).mp ht
      rw [List.isEmpty_iff] at hempty
      subst hempty
      rw [List.length_eq_zero_iff.mp hlength] at hc
      cases hc
    · rw [if_neg hempty]
      unfold group_bls
      dsimp only
      rw [sum_pubkeys_occurrences hmap, signed_sum_filter]
      constructor
      · intro h
        refine ⟨fun t ht => ?_, ?_, of_decide_eq_true (Except.ok.inj h)⟩
        · obtain ⟨c, hc⟩ := (hmem t).mp ht
          simpa [Option.isSome_map] using Iterate.isSome_of_mapM_eq_some hmap (t, c) hc
        · obtain ⟨occurrence, hocc⟩ := List.exists_mem_of_ne_nil counted fun hnil => by
            rw [hnil, List.length_nil] at hlength
            exact hempty (List.isEmpty_iff.mpr (List.length_eq_zero_iff.mp hlength.symm))
          exact ⟨occurrence.1, (hmem _).mpr ⟨occurrence.2, hocc⟩⟩
      · intro hverifies
        rw [← hverifies.sum, decide_eq_true rfl]

variable {N : Type} {bk_set : BlockKeeperSet SignerIndex P N}

/-- The checked path's test in the group model. -/
theorem part_verifies_group (part : Occurrences × Sig) :
    part_verifies (group_bls sign) data bk_set part = true ↔
      Verifies sign bk_set.signer_to_pubkey data part.2 part.1 := by
  have hverify : (part_envelope data part).verify_signatures (group_bls sign)
      bk_set.signer_to_pubkey = .ok true ↔ Verifies sign bk_set.signer_to_pubkey data part.2 part.1 :=
    verify_signatures_group _
  rw [← hverify]
  unfold part_verifies
  split <;> simp_all

/-- A part that verifies, once the fold has started, is merged into it: in the group model the
    merge never fails. -/
theorem fold_one_checked_group {result : TryFoldResult Sig I H} {envelope : Envelope Sig I H}
    {part : Occurrences × Sig} (h : part_verifies (group_bls sign) data bk_set part = true)
    (hfolded : result.folded = some envelope) :
    fold_one_checked (group_bls sign) data bk_set result part =
      (add_occurrences envelope.signature_occurrences part.1).map fun occurrences =>
        { result with
          folded := some (Envelope.create (envelope.aggregated_signature + part.2) occurrences data) } := by
  obtain ⟨occurrences, signature⟩ := part
  unfold part_verifies part_envelope at h
  unfold fold_one_checked
  dsimp only at h ⊢
  split
  · rw [hfolded]
    dsimp only [group_bls]
    cases add_occurrences envelope.signature_occurrences occurrences <;> rfl
  · rename_i hverify
    split at h
    · exact absurd ‹_› hverify
    · cases h

/-- A part that verified leaves the poisoned parts as they were. -/
theorem CheckedFold.of_verifies {processed : List (Occurrences × Sig)}
    {result result' : TryFoldResult Sig I H} {part : Occurrences × Sig}
    (h : CheckedFold sign data bk_set processed result)
    (hverify : part_verifies (group_bls sign) data bk_set part = true)
    (hpoisoned : result'.poisoned = result.poisoned)
    (hfolded : FoldOf sign bk_set.signer_to_pubkey data
      (processed.filter (part_verifies (group_bls sign) data bk_set) ++ [part]) result'.folded) :
    CheckedFold sign data bk_set (processed ++ [part]) result' :=
  ⟨by simp [hpoisoned, hverify, h.poisoned_eq], by simpa [hverify] using hfolded⟩

/-- **Step of the checked path**: one more part is poisoned or folded. -/
theorem CheckedFold.step {processed : List (Occurrences × Sig)}
    {result result' : TryFoldResult Sig I H} {part : Occurrences × Sig}
    (h : CheckedFold sign data bk_set processed result) (hwf : part.1.WellFormed)
    (hstep : fold_one_checked (group_bls sign) data bk_set result part = some result') :
    CheckedFold sign data bk_set (processed ++ [part]) result' := by
  cases hverify : part_verifies (group_bls sign) data bk_set part
  · rw [fold_one_checked_of_not_verifies hverify, Option.some.injEq] at hstep
    subst hstep
    exact ⟨by simp [hverify, h.poisoned_eq], by simpa [hverify] using h.folded⟩
  · have hpart := (part_verifies_group part).mp hverify
    have hfold := h.folded
    cases hfolded : result.folded with
    | none =>
      rw [fold_one_checked_of_verifies_of_none hverify hfolded, Option.some.injEq] at hstep
      subst hstep
      rw [hfolded] at hfold
      refine h.of_verifies hverify rfl ?_
      simp only [FoldOf] at hfold ⊢
      rw [hfold, List.nil_append]
      exact Folds.single hpart hwf
    | some envelope =>
      rw [fold_one_checked_group hverify hfolded] at hstep
      obtain ⟨occurrences, hadd, rfl⟩ := Option.map_eq_some_iff.mp hstep
      rw [hfolded] at hfold
      exact h.of_verifies hverify rfl (Folds.add hfold hpart hwf hadd)

/-- **Run of the checked path**: every part it has seen is poisoned or folded. -/
theorem CheckedFold.run :
    ∀ {to_combine processed : List (Occurrences × Sig)} {result result' : TryFoldResult Sig I H},
      CheckedFold sign data bk_set processed result → (∀ part ∈ to_combine, part.1.WellFormed) →
      to_combine.foldlM (fold_one_checked (group_bls sign) data bk_set) result = some result' →
      CheckedFold sign data bk_set (processed ++ to_combine) result'
  | [], processed, result, result', h, _, hrun => by
    obtain rfl := Iterate.foldlM_option_nil.mp hrun
    simpa using h
  | part :: to_combine, processed, result, result', h, hwf, hrun => by
    obtain ⟨hpart, hwf⟩ := List.forall_mem_cons.mp hwf
    obtain ⟨result_mid, hstep, hrest⟩ := Iterate.foldlM_option_cons.mp hrun
    simpa using CheckedFold.run (h.step hpart hstep) hwf hrest

/-- What `try_fold_one_by_one_checked` returns poisons the parts that fail and folds the rest. -/
theorem try_fold_one_by_one_checked_group {to_combine : List (Occurrences × Sig)}
    {result : TryFoldResult Sig I H} (hwf : ∀ part ∈ to_combine, part.1.WellFormed)
    (h : try_fold_one_by_one_checked (group_bls sign) data to_combine bk_set = some result) :
    CheckedFold sign data bk_set to_combine result := by
  have hstart : CheckedFold sign data bk_set [] ⟨none, []⟩ := ⟨rfl, rfl⟩
  simpa using hstart.run hwf h

/-- An envelope the optimistic path returns folds every part. -/
theorem try_fold_all_optimistic_group {to_combine : List (Occurrences × Sig)}
    {envelope : Envelope Sig I H} (hwf : ∀ part ∈ to_combine, part.1.WellFormed)
    (h : try_fold_all_optimistic (group_bls sign) data to_combine bk_set = some (some envelope)) :
    Folds sign bk_set.signer_to_pubkey data to_combine envelope := by
  unfold try_fold_all_optimistic at h
  cases hrun : to_combine.foldlM (fun acc part => add_occurrences acc part.1) [] with
  | none =>
    rw [hrun] at h
    cases h
  | some occurrences =>
    rw [hrun] at h
    simp only [Option.bind_eq_bind, Option.bind_some] at h
    have hmerge : (group_bls sign).merge_all (to_combine.map (·.2)) =
        .ok (to_combine.map (·.2)).sum := rfl
    rw [hmerge] at h
    dsimp only at h
    split at h
    · rename_i hverify
      simp only [pure, Option.some.injEq] at h
      subst h
      obtain ⟨hwf', hcount⟩ := count_fold_add_occurrences wellFormed_nil hwf hrun
      exact ⟨rfl, rfl, hwf', fun t => by simpa [Envelope.create] using hcount t,
        (verify_signatures_group _).mp hverify⟩
    · simp [pure] at h

/-- **Every result of `try_fold`** in the group model poisons some parts and folds the others: no
    part is both, and the folded envelope verifies. -/
theorem try_fold_group {to_combine : List (Occurrences × Sig)} {result : TryFoldResult Sig I H}
    (hwf : ∀ part ∈ to_combine, part.1.WellFormed)
    (h : try_fold (group_bls sign) data to_combine bk_set = some result) :
    ∃ folds : Occurrences × Sig → Bool,
      result.poisoned = (to_combine.filter fun part => !folds part).map (part_envelope data) ∧
        FoldOf sign bk_set.signer_to_pubkey data (to_combine.filter folds) result.folded := by
  unfold try_fold at h
  cases hoptimistic : try_fold_all_optimistic (group_bls sign) data to_combine bk_set with
  | none =>
    rw [hoptimistic] at h
    cases h
  | some folded =>
    rw [hoptimistic] at h
    simp only [Option.bind_eq_bind, Option.bind_some] at h
    cases folded with
    | some envelope =>
      simp only [pure, Option.some.injEq] at h
      subst h
      refine ⟨fun _ => true, by simp, ?_⟩
      simpa [FoldOf] using try_fold_all_optimistic_group hwf hoptimistic
    | none =>
      have hchecked := try_fold_one_by_one_checked_group hwf h
      exact ⟨_, hchecked.poisoned_eq, hchecked.folded⟩

/-- Keepers that sign as their public key plus one, and two parts: one signed by keeper `0`,
    and one that claims keeper `1` but carries no signature. -/
def keeper_signature (pubkey : Nat) (_ : AttestationData Nat Nat) : ℤ := pubkey + 1

def mixed_parts : List (Occurrences × ℤ) := [([(0, 1)], 1), ([(1, 1)], 0)]

theorem try_fold_group_of_mixed_parts :
    ∃ result, try_fold (group_bls keeper_signature) attested_data mixed_parts three_keepers =
        some result ∧
      ∃ folds : Occurrences × ℤ → Bool,
        result.poisoned =
          (mixed_parts.filter fun part => !folds part).map (part_envelope attested_data) ∧
        FoldOf keeper_signature three_keepers.signer_to_pubkey attested_data
          (mixed_parts.filter folds) result.folded := by
  have hrun : try_fold (group_bls keeper_signature) attested_data mixed_parts three_keepers =
      some ⟨some ⟨1, [(0, 1)], attested_data⟩, [⟨0, [(1, 1)], attested_data⟩]⟩ := by rfl
  exact ⟨_, hrun, try_fold_group (by simp [mixed_parts, WellFormed]) hrun⟩

/-- When every part verifies, the checked path merges each one into the fold in turn. -/
theorem foldlM_fold_one_checked_of_verifies {poisoned : List (Envelope Sig I H)} :
    ∀ {to_combine : List (Occurrences × Sig)} {signature : Sig} {occurrences : Occurrences},
      (∀ part ∈ to_combine, part_verifies (group_bls sign) data bk_set part = true) →
      to_combine.foldlM (fold_one_checked (group_bls sign) data bk_set)
          ⟨some (Envelope.create signature occurrences data), poisoned⟩ =
        (to_combine.foldlM (fun acc part => add_occurrences acc part.1) occurrences).map
          fun occurrences' =>
            ⟨some (Envelope.create (signature + (to_combine.map (·.2)).sum) occurrences' data),
              poisoned⟩
  | [], signature, occurrences, _ => by simp
  | part :: to_combine, signature, occurrences, hverify => by
    obtain ⟨hpart, hverify⟩ := List.forall_mem_cons.mp hverify
    rw [List.foldlM_cons, fold_one_checked_group hpart rfl, List.foldlM_cons]
    dsimp only [Envelope.create]
    cases add_occurrences occurrences part.1 with
    | none => rfl
    | some occurrences' =>
      simp only [Option.map_some, Option.bind_eq_bind, Option.bind_some]
      refine (foldlM_fold_one_checked_of_verifies hverify).trans ?_
      simp [Envelope.create, add_assoc]

/-- **The two paths agree when every part verifies**: if no total overflows a `u16`, `try_fold`
    returns the optimistic fold of all parts, poisons none, and that envelope is the one the
    checked path builds. -/
theorem try_fold_group_of_verifies {to_combine : List (Occurrences × Sig)}
    (hverify : ∀ part ∈ to_combine, part_verifies (group_bls sign) data bk_set part = true)
    (hwf : ∀ part ∈ to_combine, part.1.WellFormed) (hne : to_combine ≠ [])
    (hfit : ∀ t, total_count to_combine t < 2 ^ 16) :
    ∃ envelope, try_fold (group_bls sign) data to_combine bk_set = some ⟨some envelope, []⟩ ∧
      try_fold_one_by_one_checked (group_bls sign) data to_combine bk_set =
        some ⟨some envelope, []⟩ ∧
      Folds sign bk_set.signer_to_pubkey data to_combine envelope := by
  obtain ⟨first, rest, rfl⟩ := List.exists_cons_of_ne_nil hne
  obtain ⟨hfirst, hrest⟩ := List.forall_mem_cons.mp hwf
  obtain ⟨hfirst_verifies, hrest_verifies⟩ := List.forall_mem_cons.mp hverify
  obtain ⟨occurrences, hrun⟩ := fold_add_occurrences_isSome hfirst hrest fun t => by
    simpa using hfit t
  have hchecked : try_fold_one_by_one_checked (group_bls sign) data (first :: rest) bk_set =
      some ⟨some (Envelope.create ((first :: rest).map (·.2)).sum occurrences data), []⟩ := by
    unfold try_fold_one_by_one_checked
    rw [List.foldlM_cons, fold_one_checked_of_verifies_of_none hfirst_verifies rfl]
    simp only [Option.bind_eq_bind, Option.bind_some, part_envelope]
    rw [foldlM_fold_one_checked_of_verifies hrest_verifies, hrun]
    rfl
  have hfolds : Folds sign bk_set.signer_to_pubkey data (first :: rest)
      (Envelope.create ((first :: rest).map (·.2)).sum occurrences data) := by
    have hfolded := (try_fold_one_by_one_checked_group hwf hchecked).folded
    rwa [List.filter_eq_self.mpr hverify] at hfolded
  refine ⟨_, ?_, hchecked, hfolds⟩
  have hoptimistic : (first :: rest).foldlM (fun acc part => add_occurrences acc part.1) [] =
      some occurrences := by
    rw [List.foldlM_cons, add_occurrences_nil hfirst]
    exact hrun
  have hverified := (verify_signatures_group
    (Envelope.create ((first :: rest).map (·.2)).sum occurrences data)).mpr hfolds.verifies
  unfold try_fold try_fold_all_optimistic
  simp only [hoptimistic, Option.bind_eq_bind, Option.bind_some]
  dsimp only [group_bls] at hverified ⊢
  rw [hverified]
  rfl

/-- Two parts that verify, signed by keepers `0` and `1`. -/
def verified_parts : List (Occurrences × ℤ) := [([(0, 1)], 1), ([(1, 2)], 4)]

theorem try_fold_group_of_verified_parts :
    ∃ envelope, try_fold (group_bls keeper_signature) attested_data verified_parts three_keepers =
        some ⟨some envelope, []⟩ ∧
      try_fold_one_by_one_checked (group_bls keeper_signature) attested_data verified_parts
          three_keepers = some ⟨some envelope, []⟩ ∧
      Folds keeper_signature three_keepers.signer_to_pubkey attested_data verified_parts envelope :=
  try_fold_group_of_verifies (by decide +kernel) (by simp [verified_parts, WellFormed])
    (by simp [verified_parts]) fun t => by
      simp only [verified_parts, total_count, List.map_cons, List.map_nil, List.sum_cons,
        List.sum_nil, count_cons, count_nil]
      split_ifs <;> omega

end Group

section Free

variable {P I H : Type} [DecidableEq P] [DecidableEq I] [DecidableEq H]

end Free

section Panic

variable {Sig P N I H : Type} [AddCommMonoid Sig] [DecidableEq Sig]

/-- **An unverified part makes `try_fold` panic**: a part that verifies and a part that does not,
    whose counts of one signer add up past a `u16`. The checked path alone would fold the first
    and poison the second; the optimistic path adds the counts before it verifies anything. -/
theorem try_fold_panics_on_unverified_count (sign : P → AttestationData I H → Sig)
    (data : AttestationData I H) (bk_set : BlockKeeperSet SignerIndex P N) {signer : SignerIndex}
    {pubkey : P} (hpubkey : bk_set.signer_to_pubkey.lookup signer = some pubkey)
    {count junk_count : Nat} (hcount : count ≠ 0) (hbounded : count < 2 ^ 16 ∧ junk_count < 2 ^ 16)
    (hover : 2 ^ 16 ≤ count + junk_count) {junk : Sig} (hjunk : junk ≠ junk_count • sign pubkey data) :
    try_fold (group_bls sign) data
        [([(signer, count)], count • sign pubkey data), ([(signer, junk_count)], junk)] bk_set = none ∧
      try_fold_one_by_one_checked (group_bls sign) data
          [([(signer, count)], count • sign pubkey data), ([(signer, junk_count)], junk)] bk_set =
        some ⟨some ⟨count • sign pubkey data, [(signer, count)], data⟩,
          [⟨junk, [(signer, junk_count)], data⟩]⟩ := by
  constructor
  · have htotal : 2 ^ 16 ≤ total_count
        [([(signer, count)], count • sign pubkey data), ([(signer, junk_count)], junk)] signer := by
      simpa [count_cons] using hover
    refine try_fold_eq_none_of_overflow (group_bls sign) ?_ htotal data bk_set
    intro part hpart
    rcases List.mem_pair.mp hpart with rfl | rfl
    · exact ⟨wellFormed_singleton _, bounded_singleton hbounded.1⟩
    · exact ⟨wellFormed_singleton _, bounded_singleton hbounded.2⟩
  · have hvalid : part_verifies (group_bls sign) data bk_set
        ([(signer, count)], count • sign pubkey data) = true :=
      (part_verifies_group _).mpr ((verifies_singleton_iff hpubkey hcount).mpr rfl)
    have hpoisoned : part_verifies (group_bls sign) data bk_set
        ([(signer, junk_count)], junk) = false := by
      rw [Bool.eq_false_iff]
      intro h
      exact hjunk (((verifies_singleton_iff hpubkey (by omega)).mp
        ((part_verifies_group _).mp h)))
    unfold try_fold_one_by_one_checked
    rw [List.foldlM_cons, fold_one_checked_of_verifies_of_none hvalid rfl]
    simp only [Option.bind_eq_bind, Option.bind_some]
    rw [List.foldlM_cons, fold_one_checked_of_not_verifies hpoisoned]
    rfl

end Panic

/-- Three keepers, each signing as its public key plus one: signer `0` attests once, and a part
    that claims signer `0` another `65535` times carries no signature. -/
theorem try_fold_panics_on_forged_count :
    try_fold (group_bls fun (pubkey : Nat) (_ : AttestationData Nat Nat) => (pubkey : ℤ) + 1)
        attested_data [([(0, 1)], 1 • (((0 : Nat) : ℤ) + 1)), ([(0, 65535)], 0)] three_keepers = none ∧
      try_fold_one_by_one_checked
          (group_bls fun (pubkey : Nat) (_ : AttestationData Nat Nat) => (pubkey : ℤ) + 1)
          attested_data [([(0, 1)], 1 • (((0 : Nat) : ℤ) + 1)), ([(0, 65535)], 0)] three_keepers =
        some ⟨some ⟨1 • (((0 : Nat) : ℤ) + 1), [(0, 1)], attested_data⟩,
          [⟨0, [(0, 65535)], attested_data⟩]⟩ :=
  try_fold_panics_on_unverified_count _ attested_data three_keepers (by decide) one_ne_zero
    ⟨by decide, by decide⟩ (by decide) (by decide)

end ackinacki.types.attestation
