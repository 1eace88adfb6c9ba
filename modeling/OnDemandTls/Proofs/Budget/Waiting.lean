import Mathlib.Algebra.Order.Floor.Div
import Mathlib.Data.Rat.Floor
import Mathlib.Tactic.FieldSimp
import OnDemandTls.Proofs.Budget.Grants

namespace OnDemandTls

/-!
# Waiting for a token

Over exact rationals and a clock of whole milliseconds a bucket holds a whole number
of parts, as many of which make a token as its period has milliseconds
(`TokenBucket.Metered`); every millisecond its capacity in parts flows in.  So the
time to wait is a multiple of a millisecond divided by the capacity.  As long as the
capacity is no more than a million, that time is never within half a nanosecond of a
whole millisecond without being one, and who sleeps for it in whole nanoseconds wakes
at the first millisecond at which a token is there
(`SharedBucket.take_returns_at_first_token`).
-/

namespace Quantity

/-! ## Rounding -/

theorem nearest_le (x : Rat) : (nearest x : Rat) ≤ x + 1 / 2 := by
  have below : (x.floor : Rat) ≤ x := Int.floor_le x
  unfold nearest
  simp only
  split_ifs <;> push_cast <;> linarith

theorem le_nearest (x : Rat) : x - 1 / 2 ≤ nearest x := by
  have above : x < x.floor + 1 := Int.lt_floor_add_one x
  unfold nearest
  simp only
  split_ifs <;> push_cast <;> linarith

/-- A number of nanoseconds that makes between `before` and one more milliseconds, as a
multiple of a millisecond divided by `parts`, is not rounded beyond these if there are
no more parts than nanoseconds. -/
theorem nearest_within_millisecond
    {missing before parts : Nat}
    (bounded : parts ≤ 1000000)
    (partsPositive : 0 < parts)
    (above : parts * before < missing)
    (within : missing ≤ parts * (before + 1)) :
    (before * 1000000 : Int) < nearest (missing * 1000000 / parts) ∧
      nearest (missing * 1000000 / parts) ≤ (before + 1) * 1000000 := by
  have positive : (0 : Rat) < parts := by exact_mod_cast partsPositive
  constructor
  · have late : (before * 1000000 + 1 : Rat) ≤ missing * 1000000 / parts := by
      rw [le_div_iff₀ positive]
      have scaled : (parts * before + 1 : Rat) ≤ missing := by exact_mod_cast above
      have small : (parts : Rat) ≤ 1000000 := by exact_mod_cast bounded
      linarith
    have rounded := le_nearest (missing * 1000000 / parts)
    have beyond : ((before * 1000000 : Int) : Rat) < nearest (missing * 1000000 / parts) := by
      push_cast
      linarith
    exact_mod_cast beyond
  · have early : (missing * 1000000 / parts : Rat) ≤ (before + 1) * 1000000 := by
      rw [div_le_iff₀ positive]
      have scaled : (missing : Rat) ≤ parts * (before + 1) := by exact_mod_cast within
      linarith
    have rounded := nearest_le (missing * 1000000 / parts)
    have below :
        (nearest (missing * 1000000 / parts) : Rat) < ((before + 1) * 1000000 + 1 : Int) := by
      push_cast
      linarith
    exact Int.lt_add_one_iff.mp (by exact_mod_cast below)

end Quantity

namespace TokenBucket

open Quantity

/-! ## Parts of tokens -/

/-- A bucket whose clock shows whole milliseconds: it is full again after `period` of
them, and it holds a whole number of parts, `period` of which are a token. -/
structure Metered
    (capacity period : Nat)
    (bucket : TokenBucket Rat) :
    Prop where
  capacity_eq : bucket.capacity = capacity
  rate_eq : bucket.rate = 1000 * capacity / period
  instant : ∃ millisecond : Nat, bucket.refilledAt = .ofMilliseconds millisecond
  tokens_eq : ∃ parts : Int, bucket.tokens = parts / period

variable {capacity period millisecond now : Nat} {bucket : TokenBucket Rat}

/-- What flows in between two milliseconds. -/
theorem inflow_eq
    (metered : bucket.Metered capacity period)
    (since : bucket.refilledAt = .ofMilliseconds millisecond) :
    seconds (.ofMilliseconds now - bucket.refilledAt) * bucket.rate =
      (now - millisecond : Nat) * capacity / period := by
  have elapsed :
      (Nanoseconds.ofMilliseconds now - .ofMilliseconds millisecond).count =
        (now - millisecond) * 1000000 :=
    (Nat.sub_mul now millisecond 1000000).symm
  rw [since, metered.rate_eq, seconds_exact, elapsed]
  push_cast
  ring

/-- A sleeper wakes at the end of the millisecond in which its time is over. -/
theorem wakeAt_of_within
    {now before : Nat}
    {wait : Int}
    (above : (before * 1000000 : Int) < wait)
    (within : wait ≤ (before + 1) * 1000000) :
    wakeAt now wait.toNat = now + (before + 1) := by
  change (now * 1000000 + wait.toNat + 999999) / 1000000 = now + (before + 1)
  omega

namespace Metered

theorem refill
    (metered : bucket.Metered capacity period)
    (periodPositive : 0 < period)
    (now : Nat) :
    (bucket.refill now).Metered capacity period where
  capacity_eq := metered.capacity_eq
  rate_eq := metered.rate_eq
  instant := ⟨now, rfl⟩
  tokens_eq := by
    obtain ⟨millisecond, since⟩ := metered.instant
    obtain ⟨parts, isParts⟩ := metered.tokens_eq
    have notZero : (period : Rat) ≠ 0 := by positivity
    rw [tokens_refill, inflow_eq metered since, metered.capacity_eq, isParts]
    rcases min_choice ((parts : Rat) / period + (now - millisecond : Nat) * capacity / period)
      capacity with flowsIn | overflows
    · refine ⟨parts + (now - millisecond : Nat) * capacity, ?_⟩
      rw [flowsIn]
      push_cast
      ring
    · refine ⟨capacity * period, ?_⟩
      rw [overflows]
      push_cast
      field_simp

theorem spend
    (metered : bucket.Metered capacity period)
    (periodPositive : 0 < period) :
    bucket.spend.Metered capacity period where
  capacity_eq := metered.capacity_eq
  rate_eq := metered.rate_eq
  instant := metered.instant
  tokens_eq := by
    obtain ⟨parts, isParts⟩ := metered.tokens_eq
    have notZero : (period : Rat) ≠ 0 := by positivity
    refine ⟨parts - period, ?_⟩
    rw [tokens_spend, isParts]
    push_cast
    field_simp

/-- Where no token is there, some parts of it are missing. -/
theorem exists_missing
    (metered : bucket.Metered capacity period)
    (periodPositive : 0 < period)
    (short : bucket.tokens < 1) :
    ∃ missing : Nat,
      0 < missing ∧ bucket.tokens = ((period - missing : Int) : Rat) / period := by
  obtain ⟨parts, isParts⟩ := metered.tokens_eq
  have positive : (0 : Rat) < period := by exact_mod_cast periodPositive
  have isShort : parts < period := by
    rw [isParts, div_lt_one positive] at short
    exact_mod_cast short
  refine ⟨(period - parts).toNat, by omega, ?_⟩
  rw [isParts]
  congr 2
  omega

/-- What a bucket holds after some milliseconds. -/
theorem tokens_after
    (metered : bucket.Metered capacity period)
    (since : bucket.refilledAt = .ofMilliseconds now)
    {parts : Int}
    (isParts : bucket.tokens = parts / period)
    (milliseconds : Nat) :
    (bucket.refill (now + milliseconds : Nat)).tokens =
      min ((parts + milliseconds * capacity : Int) / period : Rat) capacity := by
  rw [tokens_refill, inflow_eq metered since, metered.capacity_eq, isParts, Nat.add_sub_cancel_left]
  push_cast
  ring_nf

/-- A token is there as soon as what was missing has flowed in. -/
theorem one_le_tokens_after_iff
    (metered : bucket.Metered capacity period)
    (capacityPositive : 0 < capacity)
    (periodPositive : 0 < period)
    (since : bucket.refilledAt = .ofMilliseconds now)
    {missing : Nat}
    (isParts : bucket.tokens = ((period - missing : Int) : Rat) / period)
    (milliseconds : Nat) :
    1 ≤ (bucket.refill (now + milliseconds : Nat)).tokens ↔ missing ≤ capacity * milliseconds := by
  have oneFits : (1 : Rat) ≤ capacity := by exact_mod_cast capacityPositive
  have positive : (0 : Rat) < period := by exact_mod_cast periodPositive
  rw [metered.tokens_after since isParts, le_min_iff, and_iff_left oneFits, le_div_iff₀ positive,
    one_mul]
  constructor
  · intro enough
    have enough : (period : Int) ≤ period - missing + milliseconds * capacity := by
      exact_mod_cast enough
    have flowed : (missing : Int) ≤ capacity * milliseconds := by linarith
    exact_mod_cast flowed
  · intro flowed
    have flowed : (missing : Int) ≤ capacity * milliseconds := by exact_mod_cast flowed
    have enough : (period : Int) ≤ period - missing + milliseconds * capacity := by linarith
    exact_mod_cast enough

theorem waitingTime_eq
    (metered : bucket.Metered capacity period)
    (capacityPositive : 0 < capacity)
    (periodPositive : 0 < period)
    {missing : Nat}
    (isParts : bucket.tokens = ((period - missing : Int) : Rat) / period) :
    bucket.waitingTime = (nearest (missing * 1000000 / capacity)).toNat := by
  have capacityNotZero : (capacity : Rat) ≠ 0 := by positivity
  have periodNotZero : (period : Rat) ≠ 0 := by positivity
  have wait :
      ((1 : Nat) - bucket.tokens) / bucket.rate * 1000000000 =
        missing * 1000000 / capacity := by
    rw [isParts, metered.rate_eq]
    push_cast
    field_simp
    ring
  change (nearest (((1 : Nat) - bucket.tokens) / bucket.rate * 1000000000)).toNat = _
  rw [wait]

/-- Who sleeps until a token is there, in whole nanoseconds, wakes at the first
millisecond at which it is. -/
theorem wakeAt_eq
    (metered : bucket.Metered capacity period)
    (capacityPositive : 0 < capacity)
    (bounded : capacity ≤ 1000000)
    (periodPositive : 0 < period)
    {missing : Nat}
    (isParts : bucket.tokens = ((period - missing : Int) : Rat) / period)
    (isMissing : 0 < missing) :
    wakeAt now bucket.waitingTime = now + missing ⌈/⌉ capacity := by
  obtain ⟨before, isCount⟩ : ∃ before, missing ⌈/⌉ capacity = before + 1 := by
    refine Nat.exists_eq_succ_of_ne_zero fun none => ?_
    have nothing := (ceilDiv_le_iff_le_mul capacityPositive).mp (Nat.le_of_eq none)
    omega
  have enough : missing ≤ capacity * (before + 1) :=
    (ceilDiv_le_iff_le_mul capacityPositive).mp (Nat.le_of_eq isCount)
  have notYet : capacity * before < missing := by
    refine Nat.not_le.mp fun early => ?_
    have count := (ceilDiv_le_iff_le_mul capacityPositive).mpr early
    omega
  obtain ⟨above, within⟩ := nearest_within_millisecond bounded capacityPositive notYet enough
  rw [metered.waitingTime_eq capacityPositive periodPositive isParts, isCount]
  exact wakeAt_of_within above within

end Metered

/-! ## Taking a token -/

theorem metered_full
    (capacityPositive : 0 < capacity)
    (periodPositive : 0 < period)
    (beginning : Nat) :
    (full capacity (.ofMilliseconds period) beginning : TokenBucket Rat).Metered
      capacity period where
  capacity_eq := by rw [capacity_full, Nat.max_eq_left capacityPositive]
  rate_eq := by
    have nanosecondAtLeast : 0 < (Nanoseconds.ofMilliseconds period).count :=
      Nat.mul_pos periodPositive (by decide)
    have notZero : (period : Rat) ≠ 0 := by positivity
    rw [rate_full, max_seconds_period nanosecondAtLeast, Nat.max_eq_left capacityPositive,
      seconds_exact, Nanoseconds.ofMilliseconds]
    push_cast
    field_simp
    norm_num
  instant := ⟨beginning, rfl⟩
  tokens_eq := by
    have notZero : (period : Rat) ≠ 0 := by positivity
    refine ⟨capacity * period, ?_⟩
    change ((max capacity 1 : Nat) : Rat) = _
    rw [Nat.max_eq_left capacityPositive]
    push_cast
    field_simp

/-- Whoever finds a token takes it at once. -/
theorem take?_of_filled
    (limit : Nat)
    (filled : 1 ≤ (bucket.refill now).tokens) :
    bucket.take? (limit + 1) now = some (now, (bucket.refill now).spend) := by
  unfold take?
  rcases bucket.attempt_cases now with ⟨-, attempted⟩ | ⟨short, -⟩
  · rw [attempted]
  · exact absurd filled (not_le.mpr short)

/-- Whoever finds none tries again when it is time. -/
theorem take?_of_short
    (limit : Nat)
    (short : (bucket.refill now).tokens < 1) :
    bucket.take? (limit + 1) now =
      (bucket.refill now).take? limit (wakeAt now (bucket.refill now).waitingTime) := by
  rw [take?]
  rcases bucket.attempt_cases now with ⟨filled, -⟩ | ⟨-, attempted⟩
  · exact absurd filled (not_le.mpr short)
  · rw [attempted]

end TokenBucket

namespace SharedBucket

open TokenBucket

variable {capacity period beginning : Nat} {start shared later : SharedBucket}
variable {uses : List (Nanoseconds × BucketUse)}

/-- All uses of a bucket are at whole milliseconds. -/
def AtMilliseconds (uses : List (Nanoseconds × BucketUse)) : Prop :=
  ∀ use ∈ uses, ∃ millisecond : Nat, use.1 = .ofMilliseconds millisecond

theorem Step.metered
    {millisecond : Nat}
    {use : BucketUse}
    (step : Step shared (.ofMilliseconds millisecond, use) later)
    (periodPositive : 0 < period)
    (metered : shared.bucket.Metered capacity period) :
    later.bucket.Metered capacity period := by
  have refilled := metered.refill periodPositive millisecond
  rcases step.cases with ⟨-, -, laterIs⟩ | ⟨-, -, laterIs⟩
  · rw [laterIs]
    exact refilled.spend periodPositive
  · rw [laterIs]
    exact refilled

theorem Run.metered
    (run : Run start uses shared)
    (atMilliseconds : AtMilliseconds uses)
    (periodPositive : 0 < period)
    (metered : start.bucket.Metered capacity period) :
    shared.bucket.Metered capacity period := by
  induction run with
  | nil => exact metered
  | @snoc uses shared later latest _ step inductionHypothesis =>
      have before : AtMilliseconds uses :=
        fun use member => atMilliseconds use (List.mem_append_left _ member)
      obtain ⟨now, use⟩ := latest
      obtain ⟨millisecond, rfl⟩ :=
        atMilliseconds (now, use) (List.mem_append_right _ (List.mem_singleton_self _))
      exact step.metered periodPositive (inductionHypothesis before)

/-- A bucket has been used by any number of tasks in any way, all at whole
milliseconds.  Whoever takes a token from it then, with nobody else around, tries twice
at most and so sleeps at most once.  It returns at the first millisecond at which a
token is there, with one token less in the bucket than was there at that
millisecond. -/
theorem take_returns_at_first_token
    (capacityPositive : 0 < capacity)
    (bounded : capacity ≤ 1000000)
    (periodPositive : 0 < period)
    (run : Run (opened capacity (.ofMilliseconds period) beginning) uses shared)
    (atMilliseconds : AtMilliseconds uses)
    {now : Nat}
    (ordered : shared.bucket.refilledAt ≤ .ofMilliseconds now) :
    ∃ returns bucket,
      (∀ limit, shared.bucket.take? (limit + 2) now = some (returns, bucket)) ∧
        IsLeast { instant : Nat | now ≤ instant ∧ 1 ≤ (shared.bucket.refill instant).tokens }
          returns ∧
        bucket = (shared.bucket.refill returns).spend ∧
        bucket.tokens = (shared.bucket.refill returns).tokens - 1 := by
  have metered :=
    run.metered atMilliseconds periodPositive
      (metered_full capacityPositive periodPositive beginning)
  have sound := run.sound (sound_full capacity (.ofMilliseconds period) beginning)
  by_cases filled : 1 ≤ (shared.bucket.refill now).tokens
  · refine ⟨now, _, fun limit => take?_of_filled _ filled, ⟨⟨Nat.le_refl now, filled⟩, ?_⟩, rfl,
      tokens_spend _⟩
    exact fun instant there => there.1
  · have short : (shared.bucket.refill now).tokens < 1 := not_le.mp filled
    have meteredNow := metered.refill periodPositive now
    obtain ⟨missing, isMissing, inParts⟩ := meteredNow.exists_missing periodPositive short
    -- From now on the bucket holds what it would hold if nobody had looked.
    have later (milliseconds : Nat) :
        (shared.bucket.refill now).refill (now + milliseconds : Nat) =
          shared.bucket.refill (now + milliseconds : Nat) :=
      refill_refill sound.rate_nonneg ordered
        (Nat.mul_le_mul_right _ (Nat.le_add_right now milliseconds))
    have there (milliseconds : Nat) :
        1 ≤ (shared.bucket.refill (now + milliseconds : Nat)).tokens ↔
          missing ⌈/⌉ capacity ≤ milliseconds := by
      rw [← later, meteredNow.one_le_tokens_after_iff capacityPositive periodPositive rfl inParts,
        ceilDiv_le_iff_le_mul capacityPositive]
    have wakes :
        wakeAt now (shared.bucket.refill now).waitingTime = now + missing ⌈/⌉ capacity :=
      meteredNow.wakeAt_eq capacityPositive bounded periodPositive inParts isMissing
    have filledThen := (there (missing ⌈/⌉ capacity)).mpr (Nat.le_refl _)
    refine ⟨now + missing ⌈/⌉ capacity, _, fun limit => ?_,
      ⟨⟨Nat.le_add_right _ _, filledThen⟩, ?_⟩, rfl, tokens_spend _⟩
    · have filledLater := filledThen
      rw [← later] at filledLater
      rw [take?_of_short _ short, wakes, take?_of_filled _ filledLater, later]
    · rintro instant ⟨notBefore, filledBy⟩
      obtain ⟨milliseconds, rfl⟩ := Nat.exists_eq_add_of_le notBefore
      exact Nat.add_le_add_left ((there milliseconds).mp filledBy) now

/-- A bucket for three tokens a second is emptied, and somebody looks into it a
quarter of a second later. -/
def emptiedBucket : List (Nanoseconds × BucketUse) :=
  [ (.ofMilliseconds 0, .asks true)
  , (.ofMilliseconds 0, .tries 0 true)
  , (.ofMilliseconds 0, .asks true)
  , (.ofMilliseconds 250, .looks 0) ]

/-- The next token is there after a third of a second, and whoever waits for it gets it
at the millisecond after that. -/
theorem token_is_taken_after_third_of_second :
    ∃ shared bucket,
      0 < 3 ∧
        3 ≤ 1000000 ∧
        0 < 1000 ∧
        Run (opened 3 (.ofMilliseconds 1000) (0 : Nat)) emptiedBucket shared ∧
        AtMilliseconds emptiedBucket ∧
        shared.bucket.refilledAt ≤ .ofMilliseconds 250 ∧
        shared.bucket.take? 2 250 = some (334, bucket) ∧
        IsLeast { instant : Nat | 250 ≤ instant ∧ 1 ≤ (shared.bucket.refill instant).tokens }
          334 ∧
        bucket.tokens = (shared.bucket.refill (334 : Nat)).tokens - 1 := by
  have accepted :
      (follow? (opened 3 (.ofMilliseconds 1000) (0 : Nat)) emptiedBucket).any (fun shared =>
        decide (shared.bucket.refilledAt ≤ .ofMilliseconds 250) &&
          ((shared.bucket.take? 2 250).map (·.1) == some 334)) = true := by
    decide +kernel
  obtain ⟨shared, followed, checked⟩ := (Option.any_eq_true _ _).mp accepted
  rw [Bool.and_eq_true, decide_eq_true_eq, beq_iff_eq] at checked
  obtain ⟨ordered, returned⟩ := checked
  have run := run_of_follow? .nil followed
  have atMilliseconds : AtMilliseconds emptiedBucket := by
    simp [AtMilliseconds, emptiedBucket]
  obtain ⟨returns, bucket, takes, least, -, left⟩ :=
    take_returns_at_first_token (by decide) (by decide) (by decide) run atMilliseconds ordered
  have taken := takes 0
  rw [taken] at returned
  cases returned
  exact ⟨shared, bucket, by decide, by decide, by decide, run, atMilliseconds, ordered, taken,
    least, left⟩

end SharedBucket

end OnDemandTls
