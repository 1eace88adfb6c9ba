import Mathlib.Algebra.Order.Field.Rat
import Mathlib.Tactic.Linarith
import Mathlib.Tactic.Positivity
import Mathlib.Tactic.Ring
import OnDemandTls.Budget.TokenBucket

namespace OnDemandTls

/-!
# Refilling exactly

Over exact rationals a bucket is refilled as a reservoir with an overflow: what
has flowed in between two instants depends on the time between them alone, so it
does not matter whether somebody looked into the bucket in between
(`TokenBucket.refill_refill`).  A bucket never holds less than nothing or more
than its capacity (`TokenBucket.Sound`).
-/

namespace Nanoseconds

theorem count_sub (later earlier : Nanoseconds) :
    (later - earlier).count = later.count - earlier.count :=
  rfl

protected theorem le_refl (instant : Nanoseconds) : instant ≤ instant :=
  Nat.le_refl instant.count

protected theorem le_trans
    {first second third : Nanoseconds}
    (before : first ≤ second)
    (after : second ≤ third) :
    first ≤ third :=
  Nat.le_trans before after

end Nanoseconds

namespace Quantity

/-! ## Exact quantities -/

theorem ofNat_exact (n : Nat) : (ofNat n : Rat) = n :=
  rfl

theorem atMost_exact (a b : Rat) : atMost a b = decide (a ≤ b) :=
  rfl

theorem least_exact (a b : Rat) : least a b = min a b := by
  unfold least
  rw [atMost_exact, min_def]
  simp only [decide_eq_true_eq]

theorem greatest_exact (a b : Rat) : greatest a b = max a b := by
  unfold greatest
  rw [atMost_exact, max_def]
  simp only [decide_eq_true_eq]

/-- The whole seconds and the rest together are all nanoseconds. -/
theorem seconds_exact (time : Nanoseconds) :
    (seconds time : Rat) = (time.count : Rat) / 1000000000 := by
  have split : (time.count : Rat) =
      1000000000 * (time.count / 1000000000 : Nat) + (time.count % 1000000000 : Nat) := by
    exact_mod_cast (Nat.div_add_mod time.count 1000000000).symm
  change ((time.count / 1000000000 : Nat) : Rat) +
    ((time.count % 1000000000 : Nat) : Rat) / ((1000000000 : Nat) : Rat) = _
  rw [split]
  push_cast
  ring

theorem seconds_nonneg (time : Nanoseconds) : (0 : Rat) ≤ seconds time := by
  rw [seconds_exact]
  positivity

theorem seconds_mono
    {shorter longer : Nanoseconds}
    (ordered : shorter ≤ longer) :
    (seconds shorter : Rat) ≤ seconds longer := by
  have counts : (shorter.count : Rat) ≤ longer.count := by exact_mod_cast ordered
  rw [seconds_exact, seconds_exact]
  linarith

/-- Seconds add up along a clock. -/
theorem seconds_add
    {first second third : Nanoseconds}
    (before : first ≤ second)
    (after : second ≤ third) :
    (seconds (second - first) : Rat) + seconds (third - second) = seconds (third - first) := by
  simp only [seconds_exact, Nanoseconds.count_sub]
  rw [Nat.cast_sub before, Nat.cast_sub after, Nat.cast_sub (Nat.le_trans before after)]
  ring

end Quantity

namespace TokenBucket

open Quantity

variable {bucket : TokenBucket Rat} {first second now : Nanoseconds}

@[simp] theorem capacity_refill (bucket : TokenBucket Rat) (now : Nanoseconds) :
    (bucket.refill now).capacity = bucket.capacity :=
  rfl

@[simp] theorem rate_refill (bucket : TokenBucket Rat) (now : Nanoseconds) :
    (bucket.refill now).rate = bucket.rate :=
  rfl

@[simp] theorem refilledAt_refill (bucket : TokenBucket Rat) (now : Nanoseconds) :
    (bucket.refill now).refilledAt = now :=
  rfl

theorem tokens_refill (bucket : TokenBucket Rat) (now : Nanoseconds) :
    (bucket.refill now).tokens =
      min (bucket.tokens + seconds (now - bucket.refilledAt) * bucket.rate) bucket.capacity :=
  least_exact _ _

@[simp] theorem tokens_spend (bucket : TokenBucket Rat) :
    bucket.spend.tokens = bucket.tokens - 1 := by
  change bucket.tokens - ((1 : Nat) : Rat) = bucket.tokens - 1
  rw [Nat.cast_one]

theorem hasToken_iff : bucket.hasToken = true ↔ 1 ≤ bucket.tokens := by
  unfold hasToken
  rw [atMost_exact, decide_eq_true_eq, ofNat_exact, Nat.cast_one]

/-- A bucket as it comes about: it holds no less than nothing and no more than
its capacity, which is one token at least. -/
structure Sound (bucket : TokenBucket Rat) : Prop where
  rate_nonneg : 0 ≤ bucket.rate
  one_le_capacity : 1 ≤ bucket.capacity
  tokens_nonneg : 0 ≤ bucket.tokens
  tokens_le_capacity : bucket.tokens ≤ bucket.capacity

/-- Looking into a bucket in between does not change what it holds later. -/
theorem refill_refill
    (rate_nonneg : 0 ≤ bucket.rate)
    (before : bucket.refilledAt ≤ first)
    (after : first ≤ second) :
    (bucket.refill first).refill second = bucket.refill second := by
  have inflow : 0 ≤ seconds (second - first) * bucket.rate :=
    mul_nonneg (seconds_nonneg _) rate_nonneg
  have together := seconds_add before after
  have tokens :
      ((bucket.refill first).refill second).tokens = (bucket.refill second).tokens := by
    simp only [tokens_refill, capacity_refill, rate_refill, refilledAt_refill]
    rw [← together, add_mul, ← add_assoc, ← min_add_add_right, min_assoc]
    rw [min_eq_right (le_add_of_nonneg_right inflow)]
  calc
    (bucket.refill first).refill second
      = { bucket with
          tokens := ((bucket.refill first).refill second).tokens, refilledAt := second } := rfl
    _ = bucket.refill second := by rw [tokens]; rfl

/-- A bucket gains no more than what flows in. -/
theorem tokens_refill_le (bucket : TokenBucket Rat) (now : Nanoseconds) :
    (bucket.refill now).tokens ≤
      bucket.tokens + seconds (now - bucket.refilledAt) * bucket.rate := by
  rw [tokens_refill]
  exact min_le_left _ _

namespace Sound

theorem refill
    (sound : bucket.Sound)
    (now : Nanoseconds) :
    (bucket.refill now).Sound where
  rate_nonneg := sound.rate_nonneg
  one_le_capacity := sound.one_le_capacity
  tokens_nonneg := by
    have inflow : 0 ≤ seconds (now - bucket.refilledAt) * bucket.rate :=
      mul_nonneg (seconds_nonneg _) sound.rate_nonneg
    rw [tokens_refill]
    exact le_min (add_nonneg sound.tokens_nonneg inflow)
      (zero_le_one.trans sound.one_le_capacity)
  tokens_le_capacity := by
    rw [tokens_refill]
    exact min_le_right _ _

theorem spend
    (sound : bucket.Sound)
    (filled : 1 ≤ bucket.tokens) :
    bucket.spend.Sound where
  rate_nonneg := sound.rate_nonneg
  one_le_capacity := sound.one_le_capacity
  tokens_nonneg := by
    rw [tokens_spend]
    exact sub_nonneg.mpr filled
  tokens_le_capacity := by
    rw [tokens_spend]
    exact (sub_le_self _ zero_le_one).trans sound.tokens_le_capacity

end Sound

/-! ## Uses of a bucket -/

/-- Asking refills, and spends a token if a whole one is there. -/
theorem ask_cases (bucket : TokenBucket Rat) (now : Nanoseconds) :
    (1 ≤ (bucket.refill now).tokens ∧ bucket.ask now = (true, (bucket.refill now).spend)) ∨
      ((bucket.refill now).tokens < 1 ∧ bucket.ask now = (false, bucket.refill now)) := by
  unfold ask
  by_cases filled : (bucket.refill now).hasToken = true
  · simp only [filled, ↓reduceIte]
    exact Or.inl ⟨hasToken_iff.mp filled, trivial⟩
  · simp only [filled, Bool.false_eq_true, ↓reduceIte]
    exact Or.inr ⟨lt_of_not_ge fun enough => filled (hasToken_iff.mpr enough), trivial⟩

/-- Trying is asking; who gets nothing learns when to try again. -/
theorem attempt_cases (bucket : TokenBucket Rat) (now : Nanoseconds) :
    (1 ≤ (bucket.refill now).tokens ∧ bucket.attempt now = (none, (bucket.refill now).spend)) ∨
      ((bucket.refill now).tokens < 1 ∧
        bucket.attempt now =
          (some (wakeAt now (bucket.refill now).waitingTime), bucket.refill now)) := by
  unfold attempt
  rcases bucket.ask_cases now with ⟨filled, asked⟩ | ⟨short, asked⟩
  · rw [asked]
    exact Or.inl ⟨filled, rfl⟩
  · rw [asked]
    exact Or.inr ⟨short, rfl⟩

/-- What a bucket answers depends on what it holds after the refill. -/
theorem ask_congr
    {other : TokenBucket Rat}
    (same : bucket.refill now = other.refill now) :
    bucket.ask now = other.ask now := by
  unfold ask
  rw [same]

theorem attempt_congr
    {other : TokenBucket Rat}
    (same : bucket.refill now = other.refill now) :
    bucket.attempt now = other.attempt now := by
  unfold attempt
  rw [ask_congr same]

theorem remaining_congr
    {other : TokenBucket Rat}
    (same : bucket.refill now = other.refill now) :
    bucket.remaining now = other.remaining now := by
  unfold remaining
  rw [same]

/-! ## New buckets -/

theorem capacity_full
    (capacity : Nat)
    (period now : Nanoseconds) :
    (full capacity period now : TokenBucket Rat).capacity = (max capacity 1 : Nat) :=
  rfl

/-- Tokens per second of a new bucket. -/
theorem rate_full
    (capacity : Nat)
    (period now : Nanoseconds) :
    (full capacity period now : TokenBucket Rat).rate =
      (max capacity 1 : Nat) / max (seconds period) (1 / 2 ^ 52) := by
  have shortest : (shortestPeriod : Rat) = 1 / 2 ^ 52 := by
    change ((1 : Nat) : Rat) / ((0x10000000000000 : Nat) : Rat) = _
    norm_num
  change ((max capacity 1 : Nat) : Rat) / greatest (seconds period) shortestPeriod = _
  rw [greatest_exact, shortest]

theorem sound_full
    (capacity : Nat)
    (period now : Nanoseconds) :
    (full capacity period now : TokenBucket Rat).Sound where
  rate_nonneg := by
    rw [rate_full]
    positivity
  one_le_capacity := by
    rw [capacity_full]
    exact_mod_cast le_max_right capacity 1
  tokens_nonneg := Nat.cast_nonneg _
  tokens_le_capacity := le_refl _

/-- A period of a nanosecond or more counts in full. -/
theorem max_seconds_period
    {period : Nanoseconds}
    (positive : 0 < period.count) :
    max (seconds period : Rat) (1 / 2 ^ 52) = seconds period := by
  have oneAtLeast : (1 : Rat) ≤ period.count := by exact_mod_cast positive
  apply max_eq_left
  rw [seconds_exact]
  linarith

end TokenBucket

end OnDemandTls
