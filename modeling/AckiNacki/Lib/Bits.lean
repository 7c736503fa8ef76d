import Mathlib.Data.BitVec

namespace Bits

variable {w : Nat}

/-- Masking with `1` tests the lowest bit. -/
theorem and_one_ne_zero (hw : 0 < w) (x : BitVec w) : (x &&& 1#w != 0#w) = x.getLsbD 0 := by
  cases h : x.getLsbD 0
  · simp only [bne_eq_false_iff_eq]
    apply BitVec.eq_of_getLsbD_eq
    intro i _
    simp only [BitVec.getLsbD_and, BitVec.getLsbD_one, BitVec.getLsbD_zero]
    rcases Nat.eq_zero_or_pos i with rfl | hpos
    · simp [h]
    · simp [Nat.pos_iff_ne_zero.mp hpos]
  · simp only [bne_iff_ne, ne_eq]
    intro heq
    have hbit := congrArg (·.getLsbD 0) heq
    simp only [BitVec.getLsbD_and, BitVec.getLsbD_one, BitVec.getLsbD_zero, h, hw, decide_true,
      Bool.true_and] at hbit
    exact absurd hbit (by decide)

/-- Shifting right and masking with `1` tests one bit. -/
theorem ushiftRight_and_one_ne_zero (hw : 0 < w) (x : BitVec w) (s : Nat) :
    (x >>> s &&& 1#w != 0#w) = x.getLsbD s := by
  rw [and_one_ne_zero hw, BitVec.getLsbD_ushiftRight, Nat.add_zero]

/-- Masking with a shifted `1` tests one bit. -/
theorem and_one_shiftLeft_ne_zero {s : Nat} (hs : s < w) (x : BitVec w) :
    (x &&& 1#w <<< s != 0#w) = x.getLsbD s := by
  cases h : x.getLsbD s
  · simp only [bne_eq_false_iff_eq]
    apply BitVec.eq_of_getLsbD_eq
    intro i hi
    simp only [BitVec.getLsbD_and, BitVec.getLsbD_shiftLeft, BitVec.getLsbD_one,
      BitVec.getLsbD_zero]
    by_cases his : i = s
    · subst his
      simp [h]
    · have : i - s ≠ 0 ∨ i < s := by omega
      rcases this with hne | hlt
      · simp [hne]
      · simp [hlt]
  · simp only [bne_iff_ne, ne_eq]
    intro heq
    have hbit := congrArg (·.getLsbD s) heq
    simp only [BitVec.getLsbD_and, BitVec.getLsbD_shiftLeft, BitVec.getLsbD_one,
      BitVec.getLsbD_zero, h, hs, Nat.lt_irrefl, Nat.sub_self] at hbit
    simp at hbit
    omega

/-- Or-ing a shifted `1` sets exactly that bit. -/
theorem getLsbD_or_one_shiftLeft {s : Nat} (hs : s < w) (x : BitVec w) (i : Nat) :
    (x ||| 1#w <<< s).getLsbD i = (x.getLsbD i || decide (i < w) && decide (i = s)) := by
  simp only [BitVec.getLsbD_or, BitVec.getLsbD_shiftLeft, BitVec.getLsbD_one]
  by_cases his : i = s
  · subst his
    simp [hs, Nat.zero_lt_of_lt hs]
  · by_cases hlt : i < s
    · simp [hlt, his]
    · have : i - s ≠ 0 := by omega
      simp [this, his]

/-- A value matches `k` on the meaningful bits `m` when it agrees with `k` at every bit of
    `m`. -/
theorem and_eq_and_iff {x k m : BitVec w} :
    x &&& m = k &&& m ↔ ∀ i, m.getLsbD i = true → x.getLsbD i = k.getLsbD i := by
  constructor
  · intro h i hm
    have hbit := congrArg (·.getLsbD i) h
    simpa only [BitVec.getLsbD_and, hm, Bool.and_true] using hbit
  · intro h
    apply BitVec.eq_of_getLsbD_eq
    intro i _
    simp only [BitVec.getLsbD_and]
    cases hm : m.getLsbD i
    · simp
    · simp [h i hm]

end Bits
