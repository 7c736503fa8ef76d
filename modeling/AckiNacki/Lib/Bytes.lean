import Mathlib.Data.List.Basic
import Mathlib.Algebra.Group.Nat.Defs

namespace Bytes

/-- The `width` low bytes of `n`, most significant first. -/
def to_be : Nat → Nat → List UInt8
  | 0, _ => []
  | width + 1, n => to_be width (n / 256) ++ [UInt8.ofNat n]

/-- The number a string of bytes encodes, most significant first. -/
def from_be (bytes : List UInt8) : Nat :=
  bytes.foldl (fun acc b => acc * 256 + b.toNat) 0

@[simp]
theorem length_to_be (width n : Nat) : (to_be width n).length = width := by
  induction width generalizing n with
  | zero => rfl
  | succ width ih => simp [to_be, ih]

theorem from_be_append_singleton (bytes : List UInt8) (b : UInt8) :
    from_be (bytes ++ [b]) = from_be bytes * 256 + b.toNat := by
  simp [from_be, List.foldl_append]

/-- Reading an encoding back gives the number modulo the width. -/
theorem from_be_to_be (width n : Nat) : from_be (to_be width n) = n % 256 ^ width := by
  induction width generalizing n with
  | zero => simp [to_be, from_be, Nat.mod_one]
  | succ width ih =>
    have hbyte : (UInt8.ofNat n).toNat = n % 256 := by simp
    rw [to_be, from_be_append_singleton, ih, hbyte, Nat.pow_succ, Nat.mul_comm (256 ^ width) 256,
      Nat.mod_mul]
    omega

theorem from_be_to_be_of_lt {width n : Nat} (hn : n < 256 ^ width) :
    from_be (to_be width n) = n := by
  rw [from_be_to_be, Nat.mod_eq_of_lt hn]

/-- `split_at`: the first `mid` bytes and the rest; `none` is the panic past the end. -/
def split_at (data : List UInt8) (mid : Nat) : Option (List UInt8 × List UInt8) :=
  if mid ≤ data.length then some (data.take mid, data.drop mid) else none

theorem split_at_eq_some {data : List UInt8} {mid : Nat} (hmid : mid ≤ data.length) :
    split_at data mid = some (data.take mid, data.drop mid) := by
  simp [split_at, hmid]

theorem split_at_append {front back : List UInt8} {mid : Nat} (hmid : front.length = mid) :
    split_at (front ++ back) mid = some (front, back) := by
  subst hmid
  simp [split_at]

theorem split_at_eq_none {data : List UInt8} {mid : Nat} (hlong : data.length < mid) :
    split_at data mid = none := by
  simp [split_at, Nat.not_le.mpr hlong]

end Bytes
