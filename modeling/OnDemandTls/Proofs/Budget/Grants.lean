import OnDemandTls.Proofs.Budget.Refill

namespace OnDemandTls

/-!
# Consumers of a bucket

Any number of tasks use one bucket.  Some ask for a token and go on without one,
some look how many are left, and some take a token: such a task tries, sleeps
while there is none, and tries again when it wakes.  What they do comes in any
order, at instants that never go back.

What a bucket grants within a window of time is bounded by what it can hold and
what flows in meanwhile (`SharedBucket.grants_within_window_are_bounded`).
-/

/-- What a task does to a bucket at one instant. -/
inductive BucketUse where
  /-- A task asks for a token, and goes on with or without one. -/
  | asks (granted : Bool)
  /-- A task that takes a token tries to get it, for the first time or after it
  has slept; with a token the take returns. -/
  | tries (taker : Nat) (granted : Bool)
  | looks (left : Nat)
  deriving DecidableEq, Repr

namespace BucketUse

/-- Whether a token is spent. -/
def granted : BucketUse → Bool
  | asks granted | tries _ granted => granted
  | looks _ => false

/-- Whether a token is wanted and not given. -/
def refused : BucketUse → Bool
  | asks granted | tries _ granted => !granted
  | looks _ => false

end BucketUse

/-- A bucket with the tasks that sleep until they try again. -/
structure SharedBucket where
  bucket : TokenBucket Rat
  /-- The millisecond at which a sleeping task is to wake. -/
  wakesAt : Nat → Option Nat

namespace SharedBucket

open Quantity

/-- A new bucket that nobody waits for. -/
def opened
    (capacity : Nat)
    (period now : Nanoseconds) :
    SharedBucket where
  bucket := TokenBucket.full capacity period now
  wakesAt := fun _ => none

/-- The bucket after a use, with one task asleep until some millisecond or
awake. -/
def withTaker
    (shared : SharedBucket)
    (bucket : TokenBucket Rat)
    (taker : Nat)
    (wakes : Option Nat) :
    SharedBucket where
  bucket := bucket
  wakesAt := fun other => if other = taker then wakes else shared.wakesAt other

/-- A task does not sleep at some instant. -/
def IsAwake
    (shared : SharedBucket)
    (taker : Nat)
    (now : Nanoseconds) :
    Prop :=
  ∀ deadline, shared.wakesAt taker = some deadline → .ofMilliseconds deadline ≤ now

/-- The uses of a bucket, each at its instant. -/
inductive Step : SharedBucket → Nanoseconds × BucketUse → SharedBucket → Prop where
  | asks
      {shared : SharedBucket}
      {now : Nanoseconds} :
      shared.bucket.refilledAt ≤ now →
      Step shared (now, .asks (shared.bucket.ask now).1)
        { shared with bucket := (shared.bucket.ask now).2 }
  | takes
      {shared : SharedBucket}
      {now : Nanoseconds}
      {taker : Nat}
      {bucket : TokenBucket Rat} :
      shared.bucket.refilledAt ≤ now →
      shared.IsAwake taker now →
      shared.bucket.attempt now = (none, bucket) →
      Step shared (now, .tries taker true) (shared.withTaker bucket taker none)
  | sleeps
      {shared : SharedBucket}
      {now : Nanoseconds}
      {taker deadline : Nat}
      {bucket : TokenBucket Rat} :
      shared.bucket.refilledAt ≤ now →
      shared.IsAwake taker now →
      shared.bucket.attempt now = (some deadline, bucket) →
      Step shared (now, .tries taker false) (shared.withTaker bucket taker (some deadline))
  | looks
      {shared : SharedBucket}
      {now : Nanoseconds} :
      shared.bucket.refilledAt ≤ now →
      Step shared (now, .looks (shared.bucket.remaining now).1)
        { shared with bucket := (shared.bucket.remaining now).2 }

/-- Uses one after another. -/
inductive Run (start : SharedBucket) :
    List (Nanoseconds × BucketUse) → SharedBucket → Prop where
  | nil :
      Run start [] start
  | snoc
      {uses : List (Nanoseconds × BucketUse)}
      {shared later : SharedBucket}
      {use : Nanoseconds × BucketUse} :
      Run start uses shared →
      Step shared use later →
      Run start (uses ++ [use]) later

/-- How many tokens are spent from one instant on, up to another one. -/
def grantsWithin
    (first last : Nanoseconds)
    (uses : List (Nanoseconds × BucketUse)) :
    Nat :=
  uses.countP fun (now, use) => use.granted && decide (first ≤ now) && decide (now ≤ last)

variable {start shared later : SharedBucket} {now : Nanoseconds} {use : BucketUse}
variable {uses : List (Nanoseconds × BucketUse)}

/-! ## What a use does -/

/-- A use refills the bucket.  Then it spends a token if it is granted one; if it
is refused one, there is none. -/
theorem Step.cases (step : Step shared (now, use) later) :
    (use.granted = true ∧
        1 ≤ (shared.bucket.refill now).tokens ∧
        later.bucket = (shared.bucket.refill now).spend) ∨
      (use.granted = false ∧
        (use.refused = true → (shared.bucket.refill now).tokens < 1) ∧
        later.bucket = shared.bucket.refill now) := by
  cases step with
  | asks ordered =>
      rcases shared.bucket.ask_cases now with ⟨filled, asked⟩ | ⟨short, asked⟩
      · rw [asked]
        exact Or.inl ⟨rfl, filled, rfl⟩
      · rw [asked]
        exact Or.inr ⟨rfl, fun _ => short, rfl⟩
  | takes ordered awake attempted =>
      rcases shared.bucket.attempt_cases now with ⟨filled, tried⟩ | ⟨short, tried⟩
      · rw [tried] at attempted
        cases attempted
        exact Or.inl ⟨rfl, filled, rfl⟩
      · rw [tried] at attempted
        cases attempted
  | sleeps ordered awake attempted =>
      rcases shared.bucket.attempt_cases now with ⟨filled, tried⟩ | ⟨short, tried⟩
      · rw [tried] at attempted
        cases attempted
      · rw [tried] at attempted
        cases attempted
        exact Or.inr ⟨rfl, fun _ => short, rfl⟩
  | looks ordered => exact Or.inr ⟨rfl, nofun, rfl⟩

theorem Step.ordered (step : Step shared (now, use) later) :
    shared.bucket.refilledAt ≤ now := by
  cases step <;> assumption

theorem Step.refilledAt (step : Step shared (now, use) later) :
    later.bucket.refilledAt = now := by
  rcases step.cases with ⟨-, -, laterIs⟩ | ⟨-, -, laterIs⟩ <;> rw [laterIs] <;> rfl

theorem Step.capacity (step : Step shared (now, use) later) :
    later.bucket.capacity = shared.bucket.capacity := by
  rcases step.cases with ⟨-, -, laterIs⟩ | ⟨-, -, laterIs⟩ <;> rw [laterIs] <;> rfl

theorem Step.rate (step : Step shared (now, use) later) :
    later.bucket.rate = shared.bucket.rate := by
  rcases step.cases with ⟨-, -, laterIs⟩ | ⟨-, -, laterIs⟩ <;> rw [laterIs] <;> rfl

theorem Step.sound
    (step : Step shared (now, use) later)
    (sound : shared.bucket.Sound) :
    later.bucket.Sound := by
  rcases step.cases with ⟨-, filled, laterIs⟩ | ⟨-, -, laterIs⟩
  · rw [laterIs]
    exact (sound.refill now).spend filled
  · rw [laterIs]
    exact sound.refill now

/-- What is spent in a use was there or has flowed in. -/
theorem Step.tokens_le (step : Step shared (now, use) later) :
    later.bucket.tokens + (if use.granted then 1 else 0) ≤
      (shared.bucket.refill now).tokens := by
  rcases step.cases with ⟨granted, -, laterIs⟩ | ⟨notGranted, -, laterIs⟩
  · rw [granted, laterIs]
    simp
  · rw [notGranted, laterIs]
    simp

/-! ## Runs -/

namespace Run

theorem capacity (run : Run start uses shared) :
    shared.bucket.capacity = start.bucket.capacity := by
  induction run with
  | nil => rfl
  | snoc _ step inductionHypothesis => exact step.capacity.trans inductionHypothesis

theorem rate (run : Run start uses shared) :
    shared.bucket.rate = start.bucket.rate := by
  induction run with
  | nil => rfl
  | snoc _ step inductionHypothesis => exact step.rate.trans inductionHypothesis

theorem sound
    (run : Run start uses shared)
    (sound : start.bucket.Sound) :
    shared.bucket.Sound := by
  induction run with
  | nil => exact sound
  | snoc _ step inductionHypothesis => exact step.sound inductionHypothesis

/-- No use comes after the last one. -/
theorem instant_le
    (run : Run start uses shared)
    {earlier : Nanoseconds × BucketUse}
    (member : earlier ∈ uses) :
    earlier.1 ≤ shared.bucket.refilledAt := by
  induction run with
  | nil => cases member
  | @snoc uses shared later last _ step inductionHypothesis =>
      obtain ⟨now, use⟩ := last
      rw [step.refilledAt]
      rcases List.mem_append.mp member with before | isLast
      · exact Nanoseconds.le_trans (inductionHypothesis before) step.ordered
      · cases List.mem_singleton.mp isLast
        exact Nanoseconds.le_refl now

end Run

/-! ## Grants within a window -/

theorem grantsWithin_snoc
    (first last : Nanoseconds)
    (uses : List (Nanoseconds × BucketUse))
    (now : Nanoseconds)
    (use : BucketUse) :
    grantsWithin first last (uses ++ [(now, use)]) =
      grantsWithin first last uses +
        if use.granted && decide (first ≤ now) && decide (now ≤ last) then 1 else 0 := by
  unfold grantsWithin
  rw [List.countP_append, List.countP_singleton]

/-- Nothing is granted in a window that begins after the last use. -/
theorem Run.grantsWithin_eq_zero
    {first : Nanoseconds}
    (run : Run start uses shared)
    (before : ¬ first ≤ shared.bucket.refilledAt)
    (last : Nanoseconds) :
    grantsWithin first last uses = 0 := by
  apply List.countP_eq_zero.mpr
  intro earlier member
  have notYet : ¬ first ≤ earlier.1 := fun reached =>
    before (Nanoseconds.le_trans reached (run.instant_le member))
  simp [notYet]

/-- What a bucket holds and what it has granted from some instant on is what it
can hold and what has flowed in since. -/
theorem Run.account
    (run : Run start uses shared)
    (sound : start.bucket.Sound)
    (first last : Nanoseconds) :
    shared.bucket.tokens + grantsWithin first last uses ≤
      start.bucket.capacity +
        seconds (shared.bucket.refilledAt - first) * start.bucket.rate := by
  induction run with
  | nil =>
      have inflow := mul_nonneg (seconds_nonneg (start.bucket.refilledAt - first)) sound.rate_nonneg
      have filled := sound.tokens_le_capacity
      simp only [grantsWithin, List.countP_nil, Nat.cast_zero, add_zero]
      linarith
  | @snoc uses shared later latest earlier step inductionHypothesis =>
      obtain ⟨now, use⟩ := latest
      have spent := step.tokens_le
      have counted :
          (grantsWithin first last (uses ++ [(now, use)]) : Rat) ≤
            grantsWithin first last uses + if use.granted then 1 else 0 := by
        rw [grantsWithin_snoc]
        cases use.granted <;> cases decide (first ≤ now) <;> cases decide (now ≤ last) <;> simp
      rw [step.refilledAt]
      by_cases began : first ≤ shared.bucket.refilledAt
      · -- The window has begun: what flows in is added on both sides.
        have held := shared.bucket.tokens_refill_le now
        have elapsed := seconds_add began step.ordered
        rw [earlier.rate] at held
        calc
          later.bucket.tokens + grantsWithin first last (uses ++ [(now, use)])
            ≤ shared.bucket.tokens + grantsWithin first last uses +
                seconds (now - shared.bucket.refilledAt) * start.bucket.rate := by linarith
          _ ≤ start.bucket.capacity +
                (seconds (shared.bucket.refilledAt - first) +
                  seconds (now - shared.bucket.refilledAt)) * start.bucket.rate := by linarith
          _ = start.bucket.capacity + seconds (now - first) * start.bucket.rate := by rw [elapsed]
      · -- The window begins no earlier than now, and the bucket is full at best.
        have none := earlier.grantsWithin_eq_zero began last
        have held := ((earlier.sound sound).refill now).tokens_le_capacity
        have inflow := mul_nonneg (seconds_nonneg (now - first)) sound.rate_nonneg
        rw [TokenBucket.capacity_refill, earlier.capacity] at held
        rw [none, Nat.cast_zero, zero_add] at counted
        linarith

/-- What is granted within a window is what a bucket can hold and what flows in
from the beginning of the window to its end. -/
theorem Run.grantsWithin_le
    (run : Run start uses shared)
    (sound : start.bucket.Sound)
    (first last : Nanoseconds) :
    (grantsWithin first last uses : Rat) ≤
      start.bucket.capacity + seconds (last - first) * start.bucket.rate := by
  induction run with
  | nil =>
      have inflow := mul_nonneg (seconds_nonneg (last - first)) sound.rate_nonneg
      have fits := sound.one_le_capacity
      simp only [grantsWithin, List.countP_nil, Nat.cast_zero]
      linarith
  | @snoc uses shared later latest earlier step inductionHypothesis =>
      obtain ⟨now, use⟩ := latest
      by_cases inTime : now ≤ last
      · have account := (Run.snoc earlier step).account sound first last
        have notOverdrawn := (step.sound (earlier.sound sound)).tokens_nonneg
        have shorter : now - first ≤ last - first := Nat.sub_le_sub_right inTime first.count
        have inflow := mul_le_mul_of_nonneg_right (seconds_mono shorter) sound.rate_nonneg
        rw [step.refilledAt] at account
        linarith
      · rw [grantsWithin_snoc]
        simpa [inTime] using inductionHypothesis

/-! ## Looking changes nothing -/

/-- Two buckets go on alike from some instant on: the same tasks sleep, and
whoever refills them finds the same. -/
structure AlikeFrom
    (instant : Nanoseconds)
    (shared other : SharedBucket) :
    Prop where
  wakesAt : other.wakesAt = shared.wakesAt
  refilledAt :
    ∀ now, instant ≤ now → shared.bucket.refilledAt ≤ now → other.bucket.refilledAt ≤ now
  refill :
    ∀ now,
      instant ≤ now →
      shared.bucket.refilledAt ≤ now →
      other.bucket.refill now = shared.bucket.refill now

theorem AlikeFrom.refl
    (instant : Nanoseconds)
    (shared : SharedBucket) :
    AlikeFrom instant shared shared where
  wakesAt := rfl
  refilledAt _ _ reached := reached
  refill _ _ _ := rfl

/-- Of two buckets that go on alike, both have the same uses with the same
answers, and then they are the same. -/
theorem AlikeFrom.step
    {instant : Nanoseconds}
    {other : SharedBucket}
    (alike : AlikeFrom instant shared other)
    (reached : instant ≤ now)
    (step : Step shared (now, use) later) :
    Step other (now, use) later := by
  have same := alike.refill now reached step.ordered
  have orderedOther := alike.refilledAt now reached step.ordered
  obtain ⟨bucket, wakesAt⟩ := other
  cases alike.wakesAt
  have ordered : (SharedBucket.mk bucket shared.wakesAt).bucket.refilledAt ≤ now := orderedOther
  cases step with
  | asks =>
      rw [← TokenBucket.ask_congr same]
      exact .asks ordered
  | takes _ awake attempted =>
      rw [← TokenBucket.attempt_congr same] at attempted
      exact .takes ordered awake attempted
  | sleeps _ awake attempted =>
      rw [← TokenBucket.attempt_congr same] at attempted
      exact .sleeps ordered awake attempted
  | looks =>
      rw [← TokenBucket.remaining_congr same]
      exact .looks ordered

/-- Who looks into a bucket leaves it as it would be found. -/
theorem alikeFrom_looked
    {instant : Nanoseconds}
    (sound : shared.bucket.Sound)
    (reached : shared.bucket.refilledAt ≤ instant) :
    AlikeFrom instant shared { shared with bucket := (shared.bucket.remaining instant).2 } where
  wakesAt := rfl
  refilledAt _ later _ := later
  refill _ later _ := TokenBucket.refill_refill sound.rate_nonneg reached later

/-- Somebody may look into a bucket at any point of a run, and all that comes
later is answered as before. -/
theorem Run.insert_look
    {front back : List (Nanoseconds × BucketUse)}
    {instant : Nanoseconds}
    (run : Run start (front ++ back) shared)
    (sound : start.bucket.Sound)
    (begun : start.bucket.refilledAt ≤ instant)
    (follows : ∀ earlier ∈ front, earlier.1 ≤ instant)
    (precedes : ∀ later ∈ back, instant ≤ later.1) :
    ∃ left looked,
      Run start (front ++ (instant, .looks left) :: back) looked ∧
        AlikeFrom instant shared looked := by
  generalize together : front ++ back = uses at run
  induction run generalizing back with
  | nil =>
      obtain ⟨rfl, rfl⟩ := List.append_eq_nil_iff.mp together
      exact ⟨_, _, .snoc .nil (.looks begun), alikeFrom_looked sound begun⟩
  | @snoc uses shared later latest earlier step inductionHypothesis =>
      obtain ⟨now, use⟩ := latest
      rcases List.eq_nil_or_concat back with rfl | ⟨rest, last, rfl⟩
      · rw [List.append_nil] at together
        subst together
        have run := Run.snoc earlier step
        have reached : later.bucket.refilledAt ≤ instant := by
          rw [step.refilledAt]
          exact follows (now, use) (List.mem_append_right _ (List.mem_singleton_self _))
        exact ⟨_, _, .snoc run (.looks reached), alikeFrom_looked (run.sound sound) reached⟩
      · rw [List.concat_eq_append, ← List.append_assoc] at together
        obtain ⟨rfl, isLast⟩ := List.append_inj' together rfl
        cases List.singleton_inj.mp isLast
        rw [List.concat_eq_append] at precedes
        have restPrecedes := fun later member => precedes later (List.mem_append_left _ member)
        have reached : instant ≤ now :=
          precedes (now, use) (List.mem_append_right _ (List.mem_singleton_self _))
        obtain ⟨left, looked, inserted, alike⟩ := inductionHypothesis restPrecedes rfl
        refine ⟨left, later, ?_, .refl instant later⟩
        rw [List.concat_eq_append, ← List.cons_append, ← List.append_assoc]
        exact .snoc inserted (alike.step reached step)

/-! ## Following uses -/

/-- The bucket after a use, if the use is answered so. -/
def afterUse?
    (shared : SharedBucket)
    (now : Nanoseconds)
    (use : BucketUse) :
    Option SharedBucket :=
  if shared.bucket.refilledAt ≤ now then
    match use with
    | .asks granted =>
        if (shared.bucket.ask now).1 = granted then
          some { shared with bucket := (shared.bucket.ask now).2 }
        else
          none
    | .tries taker granted =>
        if (shared.wakesAt taker).all (fun deadline => decide (.ofMilliseconds deadline ≤ now)) then
          match shared.bucket.attempt now, granted with
          | (none, bucket), true => some (shared.withTaker bucket taker none)
          | (some deadline, bucket), false => some (shared.withTaker bucket taker (some deadline))
          | _, _ => none
        else
          none
    | .looks left =>
        if (shared.bucket.remaining now).1 = left then
          some { shared with bucket := (shared.bucket.remaining now).2 }
        else
          none
  else
    none

theorem step_of_afterUse?
    (accepted : afterUse? shared now use = some later) :
    Step shared (now, use) later := by
  unfold afterUse? at accepted
  split at accepted
  · rename_i ordered
    cases use with
    | asks granted =>
        simp only at accepted
        split at accepted
        · rename_i answered
          cases accepted
          rw [← answered]
          exact .asks ordered
        · cases accepted
    | tries taker granted =>
        simp only at accepted
        split at accepted
        · rename_i slept
          have awake : shared.IsAwake taker now := by
            intro deadline sleeps
            rw [sleeps, Option.all_some] at slept
            exact of_decide_eq_true slept
          split at accepted
          · rename_i bucket attempted
            cases accepted
            exact .takes ordered awake attempted
          · rename_i deadline bucket attempted
            cases accepted
            exact .sleeps ordered awake attempted
          · cases accepted
        · cases accepted
    | looks left =>
        simp only at accepted
        split at accepted
        · rename_i answered
          cases accepted
          rw [← answered]
          exact .looks ordered
        · cases accepted
  · cases accepted

/-- Follow uses one after another. -/
def follow? : SharedBucket → List (Nanoseconds × BucketUse) → Option SharedBucket
  | shared, [] => some shared
  | shared, (now, use) :: rest => (afterUse? shared now use).bind fun later => follow? later rest

/-- Uses that can be followed are those of a run. -/
theorem run_of_follow?
    {earlier : List (Nanoseconds × BucketUse)}
    (run : Run start earlier shared)
    (accepted : follow? shared uses = some later) :
    Run start (earlier ++ uses) later := by
  induction uses generalizing earlier shared with
  | nil =>
      cases accepted
      rw [List.append_nil]
      exact run
  | cons first rest inductionHypothesis =>
      obtain ⟨now, use⟩ := first
      obtain ⟨next, stepped, others⟩ := Option.bind_eq_some_iff.mp accepted
      rw [List.append_cons]
      exact inductionHypothesis (.snoc run (step_of_afterUse? stepped)) others

/-! ## The rate of grants -/

/-- A bucket of some capacity and some period, used by any number of tasks in any
order.  It never holds less than nothing or more than its capacity `most`, which
is one token at least, and so it would be found at any later instant.  Within any
window it grants no more than what it can hold and what flows in meanwhile, `most`
tokens in a period.  A token is refused only while less than one is there.  And
at any point of a run somebody may look into the bucket: everything that comes
later is answered as before. -/
theorem grants_within_window_are_bounded
    {capacity : Nat}
    {period beginning : Nanoseconds}
    (positive : 0 < period.count)
    (run : Run (opened capacity period beginning) uses shared) :
    let most : Rat := (max capacity 1 : Nat)
    (0 ≤ shared.bucket.tokens ∧ shared.bucket.tokens ≤ most) ∧
      (∀ now,
        0 ≤ (shared.bucket.refill now).tokens ∧ (shared.bucket.refill now).tokens ≤ most) ∧
      (∀ first last,
        (grantsWithin first last uses : Rat) ≤
          most + seconds (last - first) * most / seconds period) ∧
      (∀ now use later,
        Step shared (now, use) later →
        use.refused = true →
        (shared.bucket.refill now).tokens < 1) ∧
      ∀ front back instant,
        uses = front ++ back →
        beginning ≤ instant →
        (∀ earlier ∈ front, earlier.1 ≤ instant) →
        (∀ later ∈ back, instant ≤ later.1) →
        ∃ left looked,
          Run (opened capacity period beginning) (front ++ (instant, .looks left) :: back)
            looked := by
  intro most
  have sound := TokenBucket.sound_full capacity period beginning
  have capacityIs : shared.bucket.capacity = most := run.capacity
  have soundNow := run.sound sound
  refine ⟨⟨soundNow.tokens_nonneg, capacityIs ▸ soundNow.tokens_le_capacity⟩, ?_, ?_, ?_, ?_⟩
  · intro now
    have soundThen := soundNow.refill now
    have fits := soundThen.tokens_le_capacity
    rw [TokenBucket.capacity_refill, capacityIs] at fits
    exact ⟨soundThen.tokens_nonneg, fits⟩
  · intro first last
    have bounded := run.grantsWithin_le sound first last
    have rateIs : (opened capacity period beginning).bucket.rate = most / seconds period := by
      rw [opened, TokenBucket.rate_full, TokenBucket.max_seconds_period positive]
    rw [rateIs, ← mul_div_assoc] at bounded
    exact bounded
  · intro now use later step refused
    rcases step.cases with ⟨granted, -, -⟩ | ⟨-, short, -⟩
    · cases use <;> simp_all [BucketUse.granted, BucketUse.refused]
    · exact short refused
  · intro front back instant isUses begun follows precedes
    subst isUses
    obtain ⟨left, looked, inserted, -⟩ := run.insert_look sound begun follows precedes
    exact ⟨left, looked, inserted⟩

/-- One second with a bucket that holds two tokens and is filled in a second: two
tokens are spent at once, one task is refused, one sleeps for half a second, and
one comes when the second is over. -/
def busySecond : List (Nanoseconds × BucketUse) :=
  [ (0, .asks true)
  , (0, .asks true)
  , (0, .asks false)
  , (0, .tries 0 false)
  , (⟨250000001⟩, .looks 0)
  , (.ofMilliseconds 500, .tries 0 true)
  , (.ofMilliseconds 500, .asks false)
  , (.ofMilliseconds 1000, .asks true) ]

/-- In a busy second as many tokens are spent as the theorem allows. -/
theorem busy_second_reaches_bound :
    ∃ shared,
      Run (opened 2 (.ofMilliseconds 1000) 0) busySecond shared ∧
        grantsWithin 0 (.ofMilliseconds 1000) busySecond = 4 ∧
        (grantsWithin 0 (.ofMilliseconds 1000) busySecond : Rat) ≤
          (max 2 1 : Nat) +
            seconds (.ofMilliseconds 1000 - 0) * (max 2 1 : Nat) /
              seconds (.ofMilliseconds 1000) := by
  have accepted :
      (follow? (opened 2 (.ofMilliseconds 1000) 0) busySecond).isSome = true := by
    decide +kernel
  obtain ⟨shared, followed⟩ := Option.isSome_iff_exists.mp accepted
  have run := run_of_follow? .nil followed
  obtain ⟨-, -, bounded, -⟩ := grants_within_window_are_bounded (by decide) run
  exact ⟨shared, run, by decide +kernel, bounded 0 (.ofMilliseconds 1000)⟩

end SharedBucket

end OnDemandTls
