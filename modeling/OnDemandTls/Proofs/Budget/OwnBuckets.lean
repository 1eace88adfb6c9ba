import OnDemandTls.Budget.PerUser
import OnDemandTls.Proofs.Budget.Refill

namespace OnDemandTls

/-!
# A bucket for every user

The buckets of users share nothing, and a bucket that is made full when its user
first asks cannot be told from one that has been full since the budgets were set
up: what flows into a full bucket is lost (`TokenBucket.refill_full`).  So the
answers that a user gets are those of a bucket of their own, whoever else asks
and however often (`UserBudgets.answers_are_of_own_bucket`).
-/

namespace TokenBucket

/-- What a bucket answers when it is asked at some instants, one after another. -/
def answers
    {α : Type}
    [Quantity α]
    (bucket : TokenBucket α) :
    List Nanoseconds →
    List Bool
  | [] => []
  | now :: later => (bucket.ask now).1 :: (bucket.ask now).2.answers later

/-- A full bucket that nobody has used is full at every instant. -/
theorem refill_full
    (capacity : Nat)
    (period created now : Nanoseconds) :
    (full capacity period created : TokenBucket Rat).refill now = full capacity period now := by
  have inflow :
      0 ≤
        Quantity.seconds (now - created) *
          (full capacity period created : TokenBucket Rat).rate :=
    mul_nonneg (Quantity.seconds_nonneg _) (sound_full capacity period created).rate_nonneg
  have tokens :
      ((full capacity period created : TokenBucket Rat).refill now).tokens =
        (full capacity period now : TokenBucket Rat).tokens := by
    rw [tokens_refill]
    exact min_eq_right (le_add_of_nonneg_right inflow)
  calc
    (full capacity period created : TokenBucket Rat).refill now
      = { (full capacity period now : TokenBucket Rat) with
          tokens := ((full capacity period created : TokenBucket Rat).refill now).tokens } := rfl
    _ = full capacity period now := by rw [tokens]

end TokenBucket

/-- A user asks for a token at an instant. -/
structure UserAsk where
  user : String
  instant : Nanoseconds
  deriving DecidableEq, Repr

namespace UserAsk

/-- The instants at which one user asks. -/
def instantsOf
    (user : String)
    (asks : List UserAsk) :
    List Nanoseconds :=
  asks.filterMap fun ask => if ask.user = user then some ask.instant else none

/-- The answers that one user gets. -/
def answersTo
    (user : String)
    (answered : List (UserAsk × Bool)) :
    List Bool :=
  answered.filterMap fun (ask, granted) => if ask.user = user then some granted else none

end UserAsk

namespace UserBudgets

/-- What budgets answer to users who ask one after another, beside each ask. -/
def answers
    {α : Type}
    [Quantity α]
    (budgets : UserBudgets α) :
    List UserAsk →
    List (UserAsk × Bool)
  | [] => []
  | ask :: later =>
      let (granted, budgets) := budgets.ask ask.user ask.instant
      (ask, granted) :: budgets.answers later

variable {budgets : UserBudgets Rat} {user other : String} {alone : TokenBucket Rat}
variable {now instant : Nanoseconds}

/-- From an instant on nobody can tell the bucket of a user, who may be new, from
another bucket. -/
def StandsFor
    (budgets : UserBudgets Rat)
    (user : String)
    (now : Nanoseconds)
    (alone : TokenBucket Rat) :
    Prop :=
  ∀ later, now ≤ later → (budgets.bucket user later).refill later = alone.refill later

/-! ## What an ask does to the buckets -/

theorem bucket_ask_self (budgets : UserBudgets Rat) (user : String) (instant later : Nanoseconds) :
    (budgets.ask user instant).2.bucket user later =
      ((budgets.bucket user instant).ask instant).2 := by
  unfold ask
  rw [bucket, Catalog.get?_insert, if_pos rfl, Option.getD_some]

/-- Nobody has a share in the bucket of somebody else. -/
theorem bucket_ask_other
    (budgets : UserBudgets Rat)
    (another : other ≠ user)
    (instant later : Nanoseconds) :
    (budgets.ask user instant).2.bucket other later = budgets.bucket other later := by
  unfold ask bucket
  rw [Catalog.get?_insert, if_neg another]

theorem standsFor_fresh
    (capacity : Nat)
    (period opened : Nanoseconds)
    (user : String) :
    (fresh capacity period).StandsFor user opened (TokenBucket.full capacity period opened) := by
  intro later _
  change (TokenBucket.full capacity period later : TokenBucket Rat).refill later = _
  rw [TokenBucket.refill_full, TokenBucket.refill_full]

namespace StandsFor

/-- Asks of other users change nothing for a user. -/
theorem ask_other
    (stands : budgets.StandsFor user now alone)
    (another : user ≠ other)
    (instant : Nanoseconds) :
    (budgets.ask other instant).2.StandsFor user now alone := by
  intro later after
  rw [bucket_ask_other budgets another]
  exact stands later after

/-- A user who asks gets the answer of the other bucket, and both buckets are the
same from then on. -/
theorem ask_self
    (stands : budgets.StandsFor user now alone)
    (after : now ≤ instant) :
    (budgets.ask user instant).1 = (alone.ask instant).1 ∧
      (budgets.ask user instant).2.StandsFor user instant (alone.ask instant).2 := by
  have same : (budgets.bucket user instant).ask instant = alone.ask instant :=
    TokenBucket.ask_congr (stands instant after)
  constructor
  · change ((budgets.bucket user instant).ask instant).1 = _
    rw [same]
  · intro later _
    rw [bucket_ask_self, same]

/-- As long as a bucket stands for that of a user, the user gets its answers. -/
theorem answers_eq
    {asks : List UserAsk}
    (stands : budgets.StandsFor user now alone)
    (begun : ∀ ask ∈ asks, now ≤ ask.instant)
    (ordered : asks.Pairwise fun earlier later => earlier.instant ≤ later.instant) :
    UserAsk.answersTo user (budgets.answers asks) =
      alone.answers (UserAsk.instantsOf user asks) := by
  -- The bucket alone moves on only when its user asks, and so does the instant that
  -- it is compared from.
  induction asks generalizing budgets now alone with
  | nil => rfl
  | cons ask rest inductionHypothesis =>
      obtain ⟨follow, restOrdered⟩ := List.pairwise_cons.mp ordered
      have restBegun : ∀ later ∈ rest, now ≤ later.instant :=
        fun later member => begun later (List.mem_cons_of_mem _ member)
      simp only [answers, UserAsk.answersTo, UserAsk.instantsOf, List.filterMap_cons]
      by_cases theirs : ask.user = user
      · obtain ⟨sameAnswer, standsOn⟩ := stands.ask_self (begun ask List.mem_cons_self)
        simp only [theirs, ↓reduceIte, TokenBucket.answers, sameAnswer]
        exact congrArg _ (inductionHypothesis standsOn follow restOrdered)
      · simp only [theirs, ↓reduceIte]
        have standsOn := stands.ask_other (Ne.symm theirs) ask.instant
        exact inductionHypothesis standsOn restBegun restOrdered

end StandsFor

/-! ## The answers that a user gets -/

/-- Whatever the other users ask for, and whenever a user first appears, the
answers to that user are those of a single bucket that has been there, full, since
the budgets were set up, and that is asked by this user alone at the same
instants. -/
theorem answers_are_of_own_bucket
    (capacity : Nat)
    (period opened : Nanoseconds)
    {asks : List UserAsk}
    (begun : ∀ ask ∈ asks, opened ≤ ask.instant)
    (ordered : asks.Pairwise fun earlier later => earlier.instant ≤ later.instant)
    (user : String) :
    UserAsk.answersTo user ((fresh capacity period : UserBudgets Rat).answers asks) =
      (TokenBucket.full capacity period opened : TokenBucket Rat).answers
        (UserAsk.instantsOf user asks) :=
  (standsFor_fresh capacity period opened user).answers_eq begun ordered

/-- Bob asks at once and again later; Alice appears after 700 milliseconds, when she
has a full bucket, asks three times, and half a second later once more. -/
def lateAlice : List UserAsk :=
  [ ⟨"bob", 0⟩
  , ⟨"alice", .ofMilliseconds 700⟩
  , ⟨"alice", .ofMilliseconds 700⟩
  , ⟨"bob", .ofMilliseconds 700⟩
  , ⟨"alice", .ofMilliseconds 700⟩
  , ⟨"bob", .ofMilliseconds 700⟩
  , ⟨"alice", .ofMilliseconds 1200⟩ ]

/-- Alice has two tokens for herself, and a new one after half a second. -/
theorem late_alice_has_own_bucket :
    UserAsk.answersTo "alice"
        ((fresh 2 (.ofMilliseconds 1000) : UserBudgets Rat).answers lateAlice) =
      (TokenBucket.full 2 (.ofMilliseconds 1000) 0 : TokenBucket Rat).answers
        (UserAsk.instantsOf "alice" lateAlice) ∧
      (TokenBucket.full 2 (.ofMilliseconds 1000) 0 : TokenBucket Rat).answers
        (UserAsk.instantsOf "alice" lateAlice) = [true, true, false, true] := by
  have begun : ∀ ask ∈ lateAlice, (0 : Nanoseconds) ≤ ask.instant := by decide
  have ordered : lateAlice.Pairwise fun earlier later => earlier.instant ≤ later.instant := by
    decide
  exact ⟨answers_are_of_own_bucket 2 (.ofMilliseconds 1000) 0 begun ordered "alice",
    by decide +kernel⟩

end UserBudgets

end OnDemandTls
