import Mathlib.Tactic.Ring
import AckiNacki.Lib.Schedule

namespace ackinacki.protocol.authority_switch

/-- `u32::MAX`. -/
def U32_MAX : Nat := 2 ^ 32 - 1

/-- The longest `Duration`, in whole milliseconds: `u64::MAX` seconds and `999` ms. -/
def DURATION_MAX_MILLIS : Nat := (2 ^ 64 - 1) * 1000 + 999

/-- `RoundBucket`. Durations are whole milliseconds, which is all the node passes
    (`Duration::from_millis`). -/
structure RoundBucket where
  round_duration : Nat
  max_number_of_loops : Nat
  deriving DecidableEq, Repr

/-- `RoundTime`: the buckets in the order they were added, and the round length after them. -/
structure RoundTime where
  buckets : List RoundBucket
  default_bucket : Nat
  deriving DecidableEq, Repr

structure CalculateRoundResult where
  round : Nat
  round_remaining_time : Nat
  deriving DecidableEq, Repr

/-- `Duration::checked_mul(..).unwrap()`; `none` is the panic past the longest `Duration`. -/
def duration_mul (duration n : Nat) : Option Nat :=
  if duration * n > DURATION_MAX_MILLIS then none else some (duration * n)

/-- A `u32` sum, which the release profile checks for overflow. A `u32` product added to it
    overflows only if the sum does, so the sum's check stands for both. -/
def u32_add (a b : Nat) : Option Nat :=
  if a + b > U32_MAX then none else some (a + b)

/-- `div_with_reminder`. The source floors the `f64` quotient of the two durations' nanosecond
    counts, which is the quotient of the integers while both stay below `2 ^ 52` ns (some fifty
    days). `none` is the panic of a quotient past `u32::MAX`: a positive duration over a zero
    divider is an infinite quotient, while `0 / 0` is `NaN`, which casts to `0`. -/
def div_with_reminder (duration divider : Nat) : Option (Nat × Nat) :=
  if divider = 0 then
    if duration = 0 then some (0, 0) else none
  else if duration / divider > U32_MAX then none
  else some (duration / divider, duration % divider)

/-- The loop of `RoundTime::calculate_round` over the buckets left, `remaining` ms after the
    start of round `round`. A bucket whose rounds have all begun is skipped whole; otherwise
    the time falls in it, and the rounds of its whole loops over the bk set and the rounds
    since are counted. Past the buckets, rounds have the default length. -/
def calculate_round_loop (default_bucket block_bk_set_size : Nat) :
    List RoundBucket → Nat → Nat → Option CalculateRoundResult
  | [], remaining, round => do
    let (x, r) ← div_with_reminder remaining default_bucket
    let round ← u32_add round x
    pure ⟨round, r⟩
  | bucket :: buckets, remaining, round => do
    let bucket_loop_duration ← duration_mul bucket.round_duration block_bk_set_size
    let bucket_max_duration ← duration_mul bucket_loop_duration bucket.max_number_of_loops
    if remaining ≥ bucket_max_duration then
      let round ← u32_add round (block_bk_set_size * bucket.max_number_of_loops)
      calculate_round_loop default_bucket block_bk_set_size buckets
        (remaining - bucket_max_duration) round
    else
      let (loops_count, r) ← div_with_reminder remaining bucket_loop_duration
      let round ← u32_add round (loops_count * block_bk_set_size)
      let (x, r) ← div_with_reminder r bucket.round_duration
      let round ← u32_add round x
      pure ⟨round, r⟩

/-- `RoundTime::calculate_round`: the round at `duration_from_parent_block` ms after the parent
    block, and `round_remaining_time`, the remainder of the last division. -/
def RoundTime.calculate_round (self : RoundTime) (duration_from_parent_block block_bk_set_size : Nat) :
    Option CalculateRoundResult :=
  calculate_round_loop self.default_bucket block_bk_set_size self.buckets duration_from_parent_block 0

/-- What `RoundTime::linear` builds from the node's default configuration
    (`round_min_time_millis` 10000, `round_step_millis` 1000, `round_max_time_millis` 30000): one
    loop of each length from 10 s up to 29 s, then rounds of 30 s. -/
def default_round_time : RoundTime :=
  ⟨(List.range 20).map fun i => ⟨10000 + 1000 * i, 1⟩, 30000⟩

/-- The lengths of the rounds the buckets make, in order: each bucket makes
    `block_bk_set_size * max_number_of_loops` rounds of its duration, and rounds of the default
    length follow them. -/
def round_lengths (buckets : List RoundBucket) (default_bucket block_bk_set_size r : Nat) : Nat :=
  (buckets.flatMap fun bucket =>
    List.replicate (block_bk_set_size * bucket.max_number_of_loops) bucket.round_duration).getD
      r default_bucket

def RoundTime.round_lengths (self : RoundTime) (block_bk_set_size : Nat) : Nat → Nat :=
  ackinacki.protocol.authority_switch.round_lengths self.buckets self.default_bucket
    block_bk_set_size

theorem duration_mul_eq_some {duration n product : Nat}
    (h : duration_mul duration n = some product) : product = duration * n := by
  unfold duration_mul at h
  split_ifs at h
  exact (Option.some.inj h).symm

theorem u32_add_eq_some {a b c : Nat} (h : u32_add a b = some c) : c = a + b := by
  unfold u32_add at h
  split_ifs at h
  exact (Option.some.inj h).symm

theorem div_with_reminder_eq_some {duration divider quotient remainder : Nat}
    (h : div_with_reminder duration divider = some (quotient, remainder)) :
    duration = divider * quotient + remainder ∧ (0 < divider → remainder < divider) := by
  unfold div_with_reminder at h
  split_ifs at h with hzero hempty
  · cases h
    exact ⟨by rw [hempty, hzero], fun hpos => absurd hzero (Nat.pos_iff_ne_zero.mp hpos)⟩
  · cases h
    exact ⟨(Nat.div_add_mod duration divider).symm, fun hpos => Nat.mod_lt duration hpos⟩

theorem round_lengths_nil (default_bucket block_bk_set_size r : Nat) :
    round_lengths [] default_bucket block_bk_set_size r = default_bucket := by
  simp [round_lengths]

theorem round_lengths_cons_of_lt {bucket : RoundBucket} {buckets : List RoundBucket}
    {default_bucket block_bk_set_size r : Nat}
    (hr : r < block_bk_set_size * bucket.max_number_of_loops) :
    round_lengths (bucket :: buckets) default_bucket block_bk_set_size r = bucket.round_duration := by
  simp [round_lengths, List.getElem?_append_left, hr]

theorem round_lengths_cons_add (bucket : RoundBucket) (buckets : List RoundBucket)
    (default_bucket block_bk_set_size r : Nat) :
    round_lengths (bucket :: buckets) default_bucket block_bk_set_size
        (block_bk_set_size * bucket.max_number_of_loops + r) =
      round_lengths buckets default_bucket block_bk_set_size r := by
  simp [round_lengths, List.getElem?_append_right]

section Loop

variable {default_bucket block_bk_set_size : Nat}

/-- Past the buckets, time `remaining` falls in round `x` of the default length. -/
theorem calculate_round_loop_nil {remaining round : Nat} {result : CalculateRoundResult}
    (hdefault : 0 < default_bucket)
    (h : calculate_round_loop default_bucket block_bk_set_size [] remaining round = some result) :
    ∃ k, result.round = round + k ∧
      Schedule.At (round_lengths [] default_bucket block_bk_set_size) remaining k
        result.round_remaining_time := by
  simp only [calculate_round_loop, Option.bind_eq_bind, Option.bind_eq_some_iff] at h
  obtain ⟨⟨x, r⟩, hdiv, round', hround, hresult⟩ := h
  cases hresult
  obtain ⟨hremaining, hlt⟩ := div_with_reminder_eq_some hdiv
  refine ⟨x, u32_add_eq_some hround, ?_⟩
  rw [hremaining, Nat.mul_comm]
  exact Schedule.At.of_const (fun i _ => round_lengths_nil default_bucket block_bk_set_size i)
    (hlt hdefault)

/-- A bucket whose rounds have all begun: the time left after them falls in the rounds of the
    buckets after it. -/
theorem at_past_bucket {bucket : RoundBucket} {buckets : List RoundBucket}
    {remaining k e : Nat}
    (hspent : bucket.round_duration * block_bk_set_size * bucket.max_number_of_loops ≤ remaining)
    (h : Schedule.At (round_lengths buckets default_bucket block_bk_set_size)
      (remaining - bucket.round_duration * block_bk_set_size * bucket.max_number_of_loops) k e) :
    Schedule.At (round_lengths (bucket :: buckets) default_bucket block_bk_set_size) remaining
      (block_bk_set_size * bucket.max_number_of_loops + k) e := by
  have hshifted : (fun i => round_lengths (bucket :: buckets) default_bucket block_bk_set_size
      (block_bk_set_size * bucket.max_number_of_loops + i)) =
      round_lengths buckets default_bucket block_bk_set_size :=
    funext (round_lengths_cons_add bucket buckets default_bucket block_bk_set_size)
  have hstart : Schedule.start (round_lengths (bucket :: buckets) default_bucket block_bk_set_size)
      (block_bk_set_size * bucket.max_number_of_loops) =
      bucket.round_duration * block_bk_set_size * bucket.max_number_of_loops := by
    rw [Schedule.start_of_const fun i hi => round_lengths_cons_of_lt hi]
    ring
  have hat := Schedule.At.shift (hshifted ▸ h)
  rwa [hstart, Nat.add_sub_cancel' hspent] at hat

/-- A bucket the time falls in: after `loops_count` whole loops over the bk set and `x` rounds
    more, `r` into the next round. -/
theorem at_in_bucket {bucket : RoundBucket} {buckets : List RoundBucket}
    {remaining loops_count x r : Nat}
    (hbefore : remaining < bucket.round_duration * block_bk_set_size * bucket.max_number_of_loops)
    (hremaining : remaining =
      bucket.round_duration * block_bk_set_size * loops_count + (bucket.round_duration * x + r))
    (hx : x < block_bk_set_size) (hr : r < bucket.round_duration) :
    Schedule.At (round_lengths (bucket :: buckets) default_bucket block_bk_set_size) remaining
      (loops_count * block_bk_set_size + x) r := by
  have hloops : loops_count < bucket.max_number_of_loops := by
    have hle : bucket.round_duration * block_bk_set_size * loops_count ≤ remaining := by omega
    exact Nat.lt_of_mul_lt_mul_left (Nat.lt_of_le_of_lt hle hbefore)
  have hinside : loops_count * block_bk_set_size + x <
      block_bk_set_size * bucket.max_number_of_loops :=
    calc loops_count * block_bk_set_size + x < (loops_count + 1) * block_bk_set_size := by
          rw [Nat.succ_mul]
          omega
      _ ≤ bucket.max_number_of_loops * block_bk_set_size := Nat.mul_le_mul_right _ hloops
      _ = block_bk_set_size * bucket.max_number_of_loops := Nat.mul_comm _ _
  have hat := @Schedule.At.of_const (round_lengths (bucket :: buckets) default_bucket
    block_bk_set_size) bucket.round_duration (loops_count * block_bk_set_size + x) r
    (fun i hi => round_lengths_cons_of_lt (Nat.lt_of_le_of_lt hi hinside)) hr
  have htime : (loops_count * block_bk_set_size + x) * bucket.round_duration + r = remaining := by
    rw [hremaining]
    ring
  rwa [htime] at hat

/-- The loop counts the rounds of the buckets left that began by `remaining`, from `round`, and
    ends the time since the last of them began. -/
theorem calculate_round_loop_spec (hdefault : 0 < default_bucket) :
    ∀ {buckets : List RoundBucket} {remaining round : Nat} {result : CalculateRoundResult},
      calculate_round_loop default_bucket block_bk_set_size buckets remaining round = some result →
        ∃ k, result.round = round + k ∧
          Schedule.At (round_lengths buckets default_bucket block_bk_set_size) remaining k
            result.round_remaining_time
  | [], _, _, _, h => calculate_round_loop_nil hdefault h
  | bucket :: buckets, remaining, round, result, h => by
    simp only [calculate_round_loop, Option.bind_eq_bind, Option.bind_eq_some_iff] at h
    obtain ⟨loop_duration, hloop, max_duration, hmax, h⟩ := h
    obtain rfl := duration_mul_eq_some hloop
    obtain rfl := duration_mul_eq_some hmax
    split_ifs at h with hspent
    · obtain ⟨round', hround', hrest⟩ := Option.bind_eq_some_iff.mp h
      obtain ⟨k, hk, hat⟩ := calculate_round_loop_spec hdefault hrest
      refine ⟨block_bk_set_size * bucket.max_number_of_loops + k, ?_, at_past_bucket hspent hat⟩
      rw [hk, u32_add_eq_some hround', Nat.add_assoc]
    · simp only [Option.bind_eq_some_iff] at h
      obtain ⟨⟨loops_count, r⟩, hdiv, round₁, hround₁, ⟨x, r'⟩, hdiv', round₂, hround₂, hresult⟩ := h
      dsimp only at hround₁ hdiv' hround₂ hresult
      cases hresult
      obtain ⟨hremaining, hr⟩ := div_with_reminder_eq_some hdiv
      obtain ⟨hr_eq, hr'⟩ := div_with_reminder_eq_some hdiv'
      have hloop_pos : 0 < bucket.round_duration * block_bk_set_size :=
        Nat.pos_of_ne_zero fun hzero => hspent (by rw [hzero, Nat.zero_mul]; exact Nat.zero_le _)
      have hduration_pos : 0 < bucket.round_duration := Nat.pos_of_mul_pos_right hloop_pos
      have hx : x < block_bk_set_size := by
        have hlt := hr hloop_pos
        rw [hr_eq] at hlt
        exact Nat.lt_of_mul_lt_mul_left (Nat.lt_of_le_of_lt (Nat.le_add_right _ _) hlt)
      refine ⟨loops_count * block_bk_set_size + x, ?_,
        at_in_bucket (Nat.lt_of_not_le hspent) (by rw [← hr_eq]; exact hremaining) hx
          (hr' hduration_pos)⟩
      rw [u32_add_eq_some hround₂, u32_add_eq_some hround₁, Nat.add_assoc]

end Loop

/-- `calculate_round` counts the rounds of the buckets' schedule that began by the time given,
    and its `round_remaining_time` is the time since the current round began, not the time left
    in it; so the round never goes back as time passes. -/
theorem calculate_round_counts_begun_rounds {self : RoundTime} (hdefault : 0 < self.default_bucket)
    {duration_from_parent_block block_bk_set_size : Nat} {result : CalculateRoundResult}
    (h : self.calculate_round duration_from_parent_block block_bk_set_size = some result) :
    Schedule.start (self.round_lengths block_bk_set_size) result.round +
        result.round_remaining_time = duration_from_parent_block ∧
      result.round_remaining_time < self.round_lengths block_bk_set_size result.round ∧
      ∀ later result', duration_from_parent_block ≤ later →
        self.calculate_round later block_bk_set_size = some result' → result.round ≤ result'.round := by
  have hat : ∀ {duration result}, self.calculate_round duration block_bk_set_size = some result →
      Schedule.At (self.round_lengths block_bk_set_size) duration result.round
        result.round_remaining_time := by
    intro duration result h
    obtain ⟨k, hk, hat⟩ := calculate_round_loop_spec hdefault h
    rw [hk, Nat.zero_add]
    exact hat
  obtain ⟨hstart, hlt⟩ := hat h
  exact ⟨hstart, hlt, fun later result' hlater h' => (hat h).le_of_le (hat h') hlater⟩

theorem calculate_round_counts_begun_rounds_of_default :
    0 < default_round_time.default_bucket ∧
      default_round_time.calculate_round 1000 1 = some ⟨0, 1000⟩ ∧
      Schedule.start (default_round_time.round_lengths 1) 0 + 1000 = 1000 ∧
      1000 < default_round_time.round_lengths 1 0 ∧
      ∀ later result', 1000 ≤ later →
        default_round_time.calculate_round later 1 = some result' → 0 ≤ result'.round :=
  have h : default_round_time.calculate_round 1000 1 = some ⟨0, 1000⟩ := by decide
  ⟨by decide, h, calculate_round_counts_begun_rounds (by decide) h⟩

end ackinacki.protocol.authority_switch
