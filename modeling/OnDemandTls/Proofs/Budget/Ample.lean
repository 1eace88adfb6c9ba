import OnDemandTls.Budget.Issuance
import OnDemandTls.Proofs.Budget.Refill

namespace OnDemandTls

/-!
# Ample budgets

Budgets that are switched off give every token at once and stay as they are
(`IssuanceBudgets.attempt_disabled`, `askUser_disabled`).  Budgets that hold
enough tokens give every token at once, too, and each use takes one token at
most, so they last for as many uses as they hold tokens
(`IssuanceBudgets.Ample`).
-/

namespace TokenBucket

variable {bucket : TokenBucket Rat} {number : Nat}

/-- A bucket that gives some tokens without a refill. -/
structure Ample (bucket : TokenBucket Rat) (number : Nat) : Prop where
  sound : bucket.Sound
  enough : (number : Rat) ≤ bucket.tokens

namespace Ample

theorem fewer
    {less : Nat}
    (ample : bucket.Ample number)
    (fewer : less ≤ number) :
    bucket.Ample less where
  sound := ample.sound
  enough := le_trans (by exact_mod_cast fewer) ample.enough

theorem refill
    (ample : bucket.Ample number)
    (now : Nanoseconds) :
    (bucket.refill now).Ample number where
  sound := ample.sound.refill now
  enough := by
    have inflow : 0 ≤ Quantity.seconds (now - bucket.refilledAt) * bucket.rate :=
      mul_nonneg (Quantity.seconds_nonneg _) ample.sound.rate_nonneg
    have within := ample.sound.tokens_le_capacity
    rw [tokens_refill]
    exact le_min (by linarith [ample.enough]) (le_trans ample.enough within)

/-- A new bucket gives as many tokens as its capacity. -/
theorem full
    {capacity : Nat}
    (within : number ≤ capacity)
    (period now : Nanoseconds) :
    (TokenBucket.full capacity period now : TokenBucket Rat).Ample number where
  sound := sound_full capacity period now
  enough := by
    have wide : number ≤ max capacity 1 := le_trans within (le_max_left _ _)
    change ((number : Nat) : Rat) ≤ ((max capacity 1 : Nat) : Rat)
    exact_mod_cast wide

/-- A bucket with a token more gives it and keeps the others. -/
theorem ask
    (ample : bucket.Ample (number + 1))
    (now : Nanoseconds) :
    (bucket.ask now).1 = true ∧ (bucket.ask now).2.Ample number := by
  have filled := (ample.refill now).enough
  push_cast at filled
  have whole : 1 ≤ (bucket.refill now).tokens := by
    have some : (0 : Rat) ≤ number := Nat.cast_nonneg number
    linarith
  rcases bucket.ask_cases now with ⟨-, asked⟩ | ⟨short, -⟩
  · rw [asked]
    refine ⟨rfl, (ample.sound.refill now).spend whole, ?_⟩
    rw [tokens_spend]
    linarith
  · exact absurd whole (not_le.mpr short)

theorem attempt
    (ample : bucket.Ample (number + 1))
    (now : Nanoseconds) :
    (bucket.attempt now).1 = none ∧ (bucket.attempt now).2.Ample number := by
  obtain ⟨granted, kept⟩ := ample.ask now
  unfold TokenBucket.attempt
  generalize asked : bucket.ask now = answer at granted kept
  obtain ⟨gives, later⟩ := answer
  cases granted
  exact ⟨rfl, kept⟩

end Ample

end TokenBucket

namespace IssuanceBudgets

variable {α : Type} [Quantity α]

/-! ## Budgets that are switched off -/

theorem attempt_disabled
    {budgets : IssuanceBudgets α}
    (disabled : budgets.enabled = false)
    (budget : Budget)
    (now : Nat) :
    budgets.attempt budget now = (none, budgets) := by
  simp [attempt, disabled]

theorem askUser_disabled
    {budgets : IssuanceBudgets α}
    (disabled : budgets.enabled = false)
    (user : String)
    (now : Nat) :
    budgets.askUser user now = (true, budgets) := by
  simp [askUser, disabled]

/-! ## Budgets that give enough -/

/-- Budgets that give some tokens, whoever asks for them. -/
structure Ample (budgets : IssuanceBudgets Rat) (number : Nat) : Prop where
  order : budgets.order.Ample number
  request : budgets.request.Ample number
  failure : budgets.failure.Ample number
  newUser : number ≤ budgets.users.capacity
  knownUser :
    ∀ {user bucket}, budgets.users.buckets.get? user = some bucket → bucket.Ample number

namespace Ample

variable {budgets : IssuanceBudgets Rat} {number : Nat}

theorem fewer
    {less : Nat}
    (ample : budgets.Ample number)
    (fewer : less ≤ number) :
    budgets.Ample less where
  order := ample.order.fewer fewer
  request := ample.request.fewer fewer
  failure := ample.failure.fewer fewer
  newUser := le_trans fewer ample.newUser
  knownUser known := (ample.knownUser known).fewer fewer

theorem bucket
    (ample : budgets.Ample number)
    (budget : Budget) :
    (budgets.bucket budget).Ample number := by
  cases budget with
  | order => exact ample.order
  | request => exact ample.request
  | failure => exact ample.failure

theorem withBucket
    {bucket : TokenBucket Rat}
    (ample : budgets.Ample number)
    (isAmple : bucket.Ample number)
    (budget : Budget) :
    (budgets.withBucket budget bucket).Ample number := by
  cases budget with
  | order => exact { ample with order := isAmple }
  | request => exact { ample with request := isAmple }
  | failure => exact { ample with failure := isAmple }

theorem attempt
    (ample : budgets.Ample (number + 1))
    (budget : Budget)
    (now : Nat) :
    (budgets.attempt budget now).1 = none ∧ (budgets.attempt budget now).2.Ample number := by
  have less := ample.fewer (Nat.le_succ number)
  unfold IssuanceBudgets.attempt
  split
  · obtain ⟨granted, kept⟩ := (ample.bucket budget).attempt now
    exact ⟨granted, less.withBucket kept budget⟩
  · exact ⟨rfl, less⟩

theorem askUser
    (ample : budgets.Ample (number + 1))
    (user : String)
    (now : Nat) :
    (budgets.askUser user now).1 = true ∧ (budgets.askUser user now).2.Ample number := by
  have less := ample.fewer (Nat.le_succ number)
  have theirs : (budgets.users.bucket user now).Ample (number + 1) := by
    unfold UserBudgets.bucket
    cases known : budgets.users.buckets.get? user with
    | none => exact .full ample.newUser _ _
    | some bucket => exact ample.knownUser known
  unfold IssuanceBudgets.askUser
  split
  · obtain ⟨granted, kept⟩ := theirs.ask now
    refine ⟨granted, { less with knownUser := fun {other bucket} known => ?_ }⟩
    simp only [UserBudgets.ask, Catalog.get?_insert] at known
    split at known
    · cases known
      exact kept
    · exact less.knownUser known
  · exact ⟨rfl, less⟩

end Ample

end IssuanceBudgets

end OnDemandTls
