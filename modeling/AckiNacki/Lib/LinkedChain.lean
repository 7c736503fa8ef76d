import Mathlib.Data.List.Nodup
import Mathlib.Data.List.TakeDrop

namespace LinkedChain

variable {K M : Type} (key : M → K) (chain : K → List M)

/-- `chain` is linked for `key`: the chain at `k` starts with the value keyed `k`, and the
    chain at the key of its second value is its tail. -/
structure Linked : Prop where
  head_key : ∀ {k m rest}, chain k = m :: rest → key m = k
  tail_eq : ∀ {k m m' rest}, chain k = m :: m' :: rest → chain (key m') = m' :: rest

/-- The segment of the chain from key `start` up to and including the first value keyed
    `stop`, or `none` when the chain from `start` never reaches `stop`. -/
def segment [DecidableEq K] (start stop : K) : Option (List M) :=
  ((chain start).findIdx? (fun m => key m == stop)).map (fun i => (chain start).take (i + 1))

variable {key chain}

/-- Every suffix of a chain is the chain at the key of its first value. -/
theorem Linked.chain_key_getElem (hlinked : Linked key chain) (k : K) :
    ∀ (i : Nat) (hi : i < (chain k).length), chain (key (chain k)[i]) = (chain k).drop i := by
  intro i
  induction i with
  | zero =>
    intro hi
    obtain ⟨m, rest, hchain⟩ := List.exists_cons_of_length_pos hi
    simp only [hchain, List.getElem_cons_zero, List.drop_zero, hlinked.head_key hchain]
  | succ i ih =>
    intro hi
    have hprev := ih (by omega)
    have hsplit : (chain k).drop i =
        (chain k)[i] :: (chain k)[i + 1] :: (chain k).drop (i + 2) := by
      rw [List.drop_eq_getElem_cons (by omega), List.drop_eq_getElem_cons (by omega)]
    rw [hsplit] at hprev
    rw [hlinked.tail_eq hprev, List.drop_eq_getElem_cons hi]

/-- Keys along a linked chain are pairwise distinct: a repeated key would make a chain equal
    to one of its proper suffixes. -/
theorem Linked.nodup_keys (hlinked : Linked key chain) (k : K) : ((chain k).map key).Nodup := by
  rw [List.nodup_iff_injective_get]
  intro ⟨i, hi⟩ ⟨j, hj⟩ hkey
  simp only [List.length_map] at hi hj
  simp only [List.get_eq_getElem, List.getElem_map] at hkey
  have hdrop : (chain k).drop i = (chain k).drop j := by
    rw [← hlinked.chain_key_getElem k i hi, ← hlinked.chain_key_getElem k j hj, hkey]
  have hlength := congrArg List.length hdrop
  simp only [List.length_drop] at hlength
  ext
  simp only
  omega

/-- Two values of one chain with the same key sit at the same index. -/
theorem Linked.index_eq_of_key_eq (hlinked : Linked key chain) (k : K) {i j : Nat}
    (hi : i < (chain k).length) (hj : j < (chain k).length)
    (hkey : key (chain k)[i] = key (chain k)[j]) : i = j := by
  have hnodup := hlinked.nodup_keys k
  rw [List.nodup_iff_injective_get] at hnodup
  have hij := @hnodup ⟨i, by simpa using hi⟩ ⟨j, by simpa using hj⟩ (by simpa using hkey)
  simpa using hij

/-- A key found at index `i` of a linked chain is found there first. -/
theorem Linked.findIdx?_key_eq (hlinked : Linked key chain) [DecidableEq K] (k : K)
    {i : Nat} (hi : i < (chain k).length) :
    (chain k).findIdx? (fun m => key m == key (chain k)[i]) = some i := by
  rw [List.findIdx?_eq_some_iff_getElem]
  refine ⟨hi, by simp, ?_⟩
  intro j hji hkey
  have hij : j = i := hlinked.index_eq_of_key_eq k (by omega) hi (by simpa using hkey)
  omega

/-- The segment from the head of a linked chain to the value at index `i`. -/
theorem Linked.segment_getElem (hlinked : Linked key chain) [DecidableEq K] (k : K)
    {i : Nat} (hi : i < (chain k).length) :
    segment key chain k (key (chain k)[i]) = some ((chain k).take (i + 1)) := by
  simp only [segment, hlinked.findIdx?_key_eq k hi, Option.map_some]

/-- The segment between two values of a linked chain, the first at index `j` and the last at
    index `i`, is read from the chain at the first one's key. -/
theorem Linked.segment_key_getElem (hlinked : Linked key chain) [DecidableEq K] (k : K)
    {j i : Nat} (hji : j ≤ i) (hi : i < (chain k).length) :
    segment key chain (key (chain k)[j]) (key (chain k)[i]) =
      some (((chain k).take (i + 1)).drop j) := by
  have hsuffix := hlinked.chain_key_getElem k j (by omega)
  have hlength : i - j < (chain (key (chain k)[j])).length := by
    rw [hsuffix, List.length_drop]
    omega
  have hget : (chain (key (chain k)[j]))[i - j] = (chain k)[i] := by
    simp only [hsuffix, List.getElem_drop]
    congr 1
    omega
  rw [← hget, hlinked.segment_getElem _ hlength, hsuffix, List.drop_take]
  congr 2
  omega

/-- A chain never reaches back to a value that came before its start: the segment from a
    later value to an earlier one does not exist. -/
theorem Linked.segment_key_getElem_of_lt (hlinked : Linked key chain) [DecidableEq K] (k : K)
    {i j : Nat} (hij : i < j) (hj : j < (chain k).length) :
    segment key chain (key (chain k)[j]) (key (chain k)[i]) = none := by
  have hsuffix := hlinked.chain_key_getElem k j hj
  simp only [segment, Option.map_eq_none_iff, List.findIdx?_eq_none_iff, hsuffix,
    beq_eq_false_iff_ne]
  intro m hm hkey
  obtain ⟨l, hl, rfl⟩ := List.getElem_of_mem hm
  simp only [List.getElem_drop] at hkey
  have hl' := hlinked.index_eq_of_key_eq k (by simp at hl; omega) (by omega) hkey
  omega

/-- A segment that exists is a prefix of the chain ending at the value keyed `stop`. -/
theorem segment_eq_some [DecidableEq K] {start stop : K} {seg : List M}
    (hseg : segment key chain start stop = some seg) :
    ∃ i, ∃ hi : i < (chain start).length, key (chain start)[i] = stop ∧
      seg = (chain start).take (i + 1) := by
  simp only [segment, Option.map_eq_some_iff, List.findIdx?_eq_some_iff_getElem] at hseg
  obtain ⟨i, ⟨hi, hkey, _⟩, rfl⟩ := hseg
  exact ⟨i, hi, by simpa using hkey, rfl⟩

end LinkedChain
